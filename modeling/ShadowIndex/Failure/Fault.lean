/-!
Contract: the parts of what can go wrong, one type for each part of the library.

Owns: the faults of declarations, databases, patterns, times, errors and ranges made from
arguments, uses of values and names of arguments, each with its message.

Does not own: failures of operations, which hold faults.
-/

set_option autoImplicit false

-- Powers are the built-in ones, whichever other powers are known where they are written.
attribute [instance (2000)] instPowNat

attribute [default_instance 20000] instPowNat

namespace ShadowIndex

/-- A mistake in the declaration of a searchable field or of a dependency. -/
inductive DefinitionFault where
  | entityType
  | fieldName
  | fieldCharacters (name : String)
  | noAttributes
  | noAssociationAttributes
  | notExtractor (name : String)
  | hidesField (qualifier entityType : String)
  | dependencyTypes
deriving DecidableEq, Repr

namespace DefinitionFault

def message : DefinitionFault → String
  | entityType => "Entity type must be a non-empty string"
  | fieldName => "Field name must be a non-empty string"
  | fieldCharacters name => "Field name '" ++ name ++ "' must not contain ':' or whitespace"
  | noAttributes => "attribute_extractor needs at least one attribute name"
  | noAssociationAttributes => "association_extractor needs at least one attribute name"
  | notExtractor name => "Extractor for '" ++ name ++ "' is not callable"
  | hidesField qualifier owner =>
      "'" ++ qualifier ++ "' is already a field of " ++ owner
        ++ "; a qualifier alias would drop it from the full text"
  | dependencyTypes => "Dependency entity types must be non-empty strings"

end DefinitionFault

/-- A refusal by the database of an index store, or by the reader of its statements. -/
inductive DatabaseFault where
  | noTable (name : String)
  | unsupported (parameter : Nat) (typeName : String)
  | notDatabase
  | cannotOpen
  | misplaced (token : String)
  | notToken (text : String)
  | incomplete
  | secondStatement
  | nullCharacter
deriving DecidableEq, Repr

namespace DatabaseFault

def message : DatabaseFault → String
  | noTable name => "no such table: " ++ name
  | unsupported parameter typeName =>
      "Error binding parameter " ++ toString parameter ++ ": type '" ++ typeName
        ++ "' is not supported"
  | notDatabase => "file is not a database"
  | cannotOpen => "unable to open database file"
  | misplaced token => "near \"" ++ token ++ "\": syntax error"
  | notToken text => "unrecognized token: \"" ++ text ++ "\""
  | incomplete => "incomplete input"
  | secondStatement => "You can only execute one statement at a time."
  | nullCharacter => "the query contains a null character"

end DatabaseFault

/-- What a number in a directive of a pattern is for. -/
inductive ExtentRole where
  | width
  | precision
deriving DecidableEq, Repr

namespace ExtentRole

def text : ExtentRole → String
  | width => "width"
  | precision => "precision"

/-- The machine integer that has to hold the number. -/
def machineInteger : ExtentRole → String
  | width => "ssize_t"
  | precision => "int"

def bits : ExtentRole → Nat
  | width => 64
  | precision => 32

def fits (role : ExtentRole) (number : Int) : Bool :=
  decide (-(2 ^ (role.bits - 1)) ≤ number) && decide (number < 2 ^ (role.bits - 1))

end ExtentRole

/-- A mismatch between the pattern of a log message and its arguments. -/
inductive PatternFault where
  | tooFewArguments
  | tooManyArguments
  | mapRequired
  | numberRequired (conversion : Char) (typeName : String)
  | integerRequired (conversion : Char) (typeName : String)
  | realRequired (typeName : String)
  | characterRequired
  | characterRange
  | starRequired
  | starRange (role : ExtentRole)
  | extentTooBig (role : ExtentRole)
  | tooManyDigits
  | tooWide
  | unknownConversion (conversion : Char) (position : Nat)
  | incomplete
  | incompleteKey
  | realRange
deriving DecidableEq, Repr

namespace PatternFault

def message : PatternFault → String
  | tooFewArguments => "not enough arguments for format string"
  | tooManyArguments => "not all arguments converted during string formatting"
  | mapRequired => "format requires a mapping"
  | numberRequired conversion typeName =>
      "%" ++ conversion.toString ++ " format: a real number is required, not " ++ typeName
  | integerRequired conversion typeName =>
      "%" ++ conversion.toString ++ " format: an integer is required, not " ++ typeName
  | realRequired typeName => "must be real number, not " ++ typeName
  | characterRequired => "%c requires int or char"
  | characterRange => "%c arg not in range(0x110000)"
  | starRequired => "* wants int"
  | starRange role => "Python int too large to convert to C " ++ role.machineInteger
  | extentTooBig role => role.text ++ " too big"
  | tooManyDigits => "precision too large"
  | tooWide => ""
  | unknownConversion conversion position =>
      "unsupported format character '"
        ++ (if 0x1F ≤ conversion.toNat ∧ conversion.toNat ≤ 0x7E then conversion.toString
            else "?")
        ++ "' (0x" ++ String.ofList (Nat.toDigits 16 conversion.toNat) ++ ") at index "
        ++ toString position
  | incomplete => "incomplete format"
  | incompleteKey => "incomplete format key"
  | realRange => "int too large to convert to float"

end PatternFault

/-- A time that no calendar date has. -/
inductive TimeFault where
  | notNumber
  | seconds
  | calendar
  | year (number : Int)
deriving DecidableEq, Repr

namespace TimeFault

def message : TimeFault → String
  | notNumber => "Invalid value NaN (not a number)"
  | seconds => "timestamp out of range for platform time_t"
  | calendar => "[Errno 75] Value too large for defined data type"
  | year number => "year " ++ toString number ++ " is out of range"

end TimeFault

inductive ErrorFault where
  | argumentCount (expected given : Nat)
  | notText (place : Nat) (typeName : String)
  | placeTooShort (given : Nat)
  | placeTooLong (given : Nat)
  | placeEnd
  | placeRequired (typeName : String)
  | groupCount (given : Nat)
  | groupName (typeName : String)
  | groupSequence
  | groupEmpty
  | groupMember (place : Nat)
  | groupNesting
deriving DecidableEq, Repr

namespace ErrorFault

/-- What makes a group of errors, as messages name it. -/
def groupMaker : String := "BaseExceptionGroup.__new__()"

def message : ErrorFault → String
  | argumentCount expected given =>
      "function takes exactly " ++ toString expected ++ " arguments (" ++ toString given
        ++ " given)"
  | notText place typeName =>
      "argument " ++ toString place ++ " must be str, not " ++ typeName
  | placeTooShort given =>
      "function takes at least 4 arguments (" ++ toString given ++ " given)"
  | placeTooLong given => "function takes at most 6 arguments (" ++ toString given ++ " given)"
  | placeEnd => "end_offset must be provided when end_lineno is provided"
  | placeRequired typeName => "'" ++ typeName ++ "' object is not iterable"
  | groupCount given =>
      groupMaker ++ " takes exactly 2 arguments (" ++ toString given ++ " given)"
  | groupName typeName => groupMaker ++ " argument 1 must be str, not " ++ typeName
  | groupSequence => "second argument (exceptions) must be a sequence"
  | groupEmpty => "second argument (exceptions) must be a non-empty sequence"
  | groupMember place =>
      "Item " ++ toString place ++ " of second argument (exceptions) is not an exception"
  | groupNesting => "Cannot nest BaseExceptions in an ExceptionGroup"

end ErrorFault

/-- A use of a value that its type does not know. -/
inductive UseFault where
  | call
  | subscript
  | index (noun : String)
  | position (noun : String)
  | integer
  | machineInteger
  | octets
  | octetsStart
  | notType
  | notFields
  | concatenation
deriving DecidableEq, Repr

namespace UseFault

def message (typeName : String) : UseFault → String
  | call => "'" ++ typeName ++ "' object is not callable"
  | subscript => "'" ++ typeName ++ "' object is not subscriptable"
  | index noun => noun ++ " indices must be integers or slices, not " ++ typeName
  | position noun => noun ++ " out of range"
  | integer => "'" ++ typeName ++ "' object cannot be interpreted as an integer"
  | machineInteger => "cannot fit '" ++ typeName ++ "' into an index-sized integer"
  | octets => "a bytes-like object is required, not '" ++ typeName ++ "'"
  | octetsStart => "startswith first arg must be bytes or a tuple of bytes, not " ++ typeName
  | notType => "__class__ must be set to a class, not '" ++ typeName ++ "' object"
  | concatenation => "can only concatenate str (not \"" ++ typeName ++ "\") to str"
  | notFields => "__dict__ must be set to a dictionary, not a '" ++ typeName ++ "'"

end UseFault

inductive RangeFault where
  | tooFew
  | tooMany (given : Nat)
  | zeroStep
deriving DecidableEq, Repr

namespace RangeFault

def message : RangeFault → String
  | tooFew => "range expected at least 1 argument, got 0"
  | tooMany given => "range expected at most 3 arguments, got " ++ toString given
  | zeroStep => "range() arg 3 must not be zero"

end RangeFault

/-- A name under which a function takes no argument, or none besides the one it has. -/
inductive NameFault where
  | unexpected
  | repeated
deriving DecidableEq, Repr

namespace NameFault

/-- The message about a name that a function is called with. -/
def message (function name : String) : NameFault → String
  | unexpected => function ++ "() got an unexpected keyword argument '" ++ name ++ "'"
  | repeated => function ++ "() got multiple values for argument '" ++ name ++ "'"

end NameFault

end ShadowIndex
