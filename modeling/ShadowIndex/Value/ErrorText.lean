import ShadowIndex.Text.Quoted
import ShadowIndex.Value.Basic

/-!
Contract: the texts of errors, made from the texts of their arguments.

Owns:
- the families of error kinds whose arguments have a meaning: errors of the system, of a source
  text, of an encoding, and groups of errors;
- `ErrorText.message`, which shows that meaning, and otherwise the only argument, or all of them
  between parentheses;
- how many arguments the literal of an error shows, and which errors end a program.

Does not own: the texts of the arguments.
-/

set_option autoImplicit false

namespace ShadowIndex

def joinWith (separator : String) (texts : List String) : String := separator.intercalate texts

namespace Value

def braced (text : String) : String := "\x7b" ++ text ++ "\x7d"

/-- Members between parentheses; a single member is followed by a comma. -/
def tupled : List String → String
  | [single] => "(" ++ single ++ ",)"
  | members => "(" ++ joinWith ", " members ++ ")"

def isNumber : Value → Bool
  | .bool _ | .int _ | .float _ => true
  | _ => false

/-- The integer that a value is, truth values included. -/
def whole? : Value → Option Int
  | .bool truth => some truth.toInt
  | .int whole => some whole
  | _ => none

def text? : Value → Option String
  | .str text => some text
  | _ => none

/-- The members of a value that has members in order and keeps them. -/
def sequence? : Value → Option (List Value)
  | .list items | .tuple items => some items
  | .str text => some (text.toList.map fun c => .str c.toString)
  | .bytes octets | .buffer octets => some (octets.map fun octet => .int octet.toNat)
  | .range first last step => some ((rangeMembers first last step).map Value.int)
  | _ => none

/-- The members that a value gives one after the other. -/
def members? : Value → Option (List Value)
  | .set items | .frozenset items | .stream items _ => some items
  | .map pairs | .record _ pairs => some (pairs.map Prod.fst)
  | item => item.sequence?

end Value

/-- An argument of an error with its two written forms. -/
structure Argument where
  value : Value
  literal : String
  plain : String

namespace ErrorText

/-- The kinds of error that end a program, which are not there to be handled. -/
def endingKinds : List String :=
  ["BaseException", "BaseExceptionGroup", "GeneratorExit", "KeyboardInterrupt", "SystemExit"]

/-! ## Errors of the system -/

/-- The kinds of error whose arguments are an error number and its description. -/
def systemKinds : List String :=
  ["OSError", "BlockingIOError", "ChildProcessError", "ConnectionError", "BrokenPipeError",
   "ConnectionAbortedError", "ConnectionRefusedError", "ConnectionResetError", "FileExistsError",
   "FileNotFoundError", "InterruptedError", "IsADirectoryError", "NotADirectoryError",
   "PermissionError", "ProcessLookupError", "TimeoutError"]

/-- Whether the arguments of an error are number, description, and perhaps a file and a second
file, which stands behind an argument without a meaning. -/
def isNumbered (kind : String) (count : Nat) : Bool :=
  systemKinds.contains kind && 2 ≤ count && count ≤ 5

/-- The place of the file. A number in its place is the size of what a blocked operation did. -/
def filePlace? (kind : String) (arguments : List Value) : Option Nat :=
  match arguments[2]? with
  | some file =>
      if isNumbered kind arguments.length && !file.isNothing
          && !(kind = "BlockingIOError" && file.isNumber) then some 2
      else none
  | none => none

/-- How many arguments the literal of an error shows: a file is not among them. -/
def shownCount (kind : String) (arguments : List Value) : Nat :=
  if (filePlace? kind arguments).isSome then 2 else arguments.length

def systemMessage (number description : Argument) (files : List Argument) : String :=
  let shown := "[Errno " ++ number.plain ++ "] " ++ description.plain
  match files with
  | [] => shown
  | files => shown ++ ": " ++ joinWith " -> " (files.map Argument.literal)

/-- The files of an error of the system. -/
def files (kind : String) (arguments : List Argument) : List Argument :=
  match filePlace? kind (arguments.map Argument.value) with
  | none => []
  | some place =>
      arguments[place]?.toList
        ++ (arguments[place + 2]?.toList.filter fun file => !file.value.isNothing)

/-! ## Errors of a source text -/

def sourceKinds : List String := ["SyntaxError", "IndentationError", "TabError"]

def lastName (path : String) : String := (path.splitOn "/").getLastD path

/-- What is wrong, and the file and line where it is. -/
def sourceMessage (what : String) (place : List Value) : String :=
  let file := (place[0]?.bind Value.text?).map lastName
  let line := place[1]?.bind fun line =>
    match line with
    | .int whole => some ("line " ++ toString whole)
    | _ => none
  match file.toList ++ line.toList with
  | [] => what
  | parts => what ++ " (" ++ joinWith ", " parts ++ ")"

/-! ## Errors of an encoding -/

/-- The parts of an encoding error: the codec if there is one, the sequence, the first and the
last place, and the reason. -/
structure EncodingPlace where
  codec : Option String
  items : List Value
  first : Int
  last : Int
  reason : String

/-- The number of arguments of an error of an encoding. -/
def encodingArity? (kind : String) : Option Nat :=
  if kind = "UnicodeDecodeError" ∨ kind = "UnicodeEncodeError" then some 5
  else if kind = "UnicodeTranslateError" then some 4
  else none

def encodingPlace? (kind : String) (arguments : List Value) : Option EncodingPlace :=
  let ofRest (codec : Option String) : List Value → Option EncodingPlace
    | [items, first, last, .str reason] => do
        return ⟨codec, ← items.sequence?, ← first.whole?, (← last.whole?) - 1, reason⟩
    | _ => none
  match encodingArity? kind, arguments with
  | some 5, .str codec :: rest => ofRest (some codec) rest
  | some _, rest => ofRest none rest
  | none, _ => none

/-- The item at a place, as the messages of encoding errors name it. -/
def itemText (item : Value) : String :=
  match item with
  | .int octet => "byte 0x" ++ String.ofList (Text.hexPadded 2 octet.toNat)
  | item =>
      let code := ((item.text?.bind fun text => text.toList.head?).map Char.toNat).getD 0
      "character '" ++ String.ofList (Text.numberEscape code) ++ "'"

def encodingMessage (kind : String) (place : EncodingPlace) : String :=
  let verb := if kind = "UnicodeDecodeError" then "decode"
    else if kind = "UnicodeEncodeError" then "encode" else "translate"
  let noun := if kind = "UnicodeDecodeError" then "bytes" else "characters"
  let single := if place.first = place.last ∧ 0 ≤ place.first then place.items[place.first.toNat]?
    else none
  (match place.codec with
    | some codec => "'" ++ codec ++ "' codec can't "
    | none => "can't ")
    ++ verb ++ " "
    ++ (match single with
      | some item => itemText item ++ " in position " ++ toString place.first
      | none => noun ++ " in position " ++ toString place.first ++ "-" ++ toString place.last)
    ++ ": " ++ place.reason

/-! ## Groups of errors -/

def groupKinds : List String := ["ExceptionGroup", "BaseExceptionGroup"]

def groupMessage (what : String) (count : Nat) : String :=
  what ++ " (" ++ toString count ++ " sub-exception" ++ (if count = 1 then ")" else "s)")

/-! ## Messages -/

/-- The message of an error whose arguments have no meaning. A missing key is shown as its
literal. -/
def plainMessage (kind : String) : List Argument → String
  | [] => ""
  | [single] => if kind = "KeyError" then single.literal else single.plain
  | arguments => Value.tupled (arguments.map Argument.literal)

def message (kind : String) (arguments : List Argument) : String :=
  let values := arguments.map Argument.value
  match encodingPlace? kind values with
  | some place => encodingMessage kind place
  | none =>
      match arguments with
      | number :: description :: _ =>
          if isNumbered kind arguments.length then
            systemMessage number description (files kind arguments)
          else if sourceKinds.contains kind then
            sourceMessage number.plain
              (if arguments.length = 2 then (description.value.members?).getD [] else [])
          else if groupKinds.contains kind then
            groupMessage number.plain ((description.value.sequence?).getD []).length
          else plainMessage kind arguments
      | [] => if sourceKinds.contains kind then "None" else ""
      | arguments => plainMessage kind arguments

end ErrorText

end ShadowIndex
