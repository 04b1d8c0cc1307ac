import ShadowIndex.Library.Datetime
import ShadowIndex.Text.Utf8
import ShadowIndex.Value.Printer

/-!
Contract: checks of values against types, as the library does them that the domain leaves them to.

Owns:
- `Issue`, what is wrong with one value, at a location;
- the checks of texts, truth values, times and record ids, with their lenient readings;
- two texts of a list of issues: one line, and a report that shows the values and refers to a guide.

Main rule: an integer or a text is an id as it is (`Value.checkId_value`). Only ids of other types
are read leniently.

Does not own: which fields a type has, or where the guide is.
-/

set_option autoImplicit false

namespace ShadowIndex

inductive IssueKind where
  | missing
  | frozen
  | notText
  | notUnicode
  | textTooShort (least : Nat)
  | notInteger
  | notWhole
  | notIntegerText
  | integerTooLong
  | notFinite
  | notTruth
  | notTruthWord
  | notList
  | notMap
  | notPath
  | notDatetime
  | notDate (fault : Text.DateFault)
  | notTime (fault : Text.DateFault)
  | negativeNumber
  | notNumber
  | notNumberText
  | notOneOf (words : List String)
  | rule (message : String)
deriving DecidableEq, Repr

namespace IssueKind

def word : IssueKind → String
  | missing => "missing"
  | frozen => "frozen_instance"
  | notText => "string_type"
  | notUnicode => "string_unicode"
  | textTooShort _ => "string_too_short"
  | notInteger => "int_type"
  | notWhole => "int_from_float"
  | notIntegerText => "int_parsing"
  | integerTooLong => "int_parsing_size"
  | notFinite => "finite_number"
  | notTruth => "bool_type"
  | notTruthWord => "bool_parsing"
  | notList => "list_type"
  | notMap => "dict_type"
  | notPath => "path_type"
  | notDatetime => "datetime_type"
  | notDate _ => "datetime_from_date_parsing"
  | notTime _ => "datetime_parsing"
  | negativeNumber => "greater_than_equal"
  | notNumber => "float_type"
  | notNumberText => "float_parsing"
  | notOneOf _ => "literal_error"
  | rule _ => "value_error"

/-- Words between quotation marks, the last after `or`. -/
def alternatives (words : List String) : String :=
  let shown := words.map Text.quoted
  match shown.reverse with
  | [] => ""
  | [single] => single
  | last :: others => joinWith ", " others.reverse ++ " or " ++ last

def message : IssueKind → String
  | missing => "Field required"
  | frozen => "Instance is frozen"
  | notText => "Input should be a valid string"
  | notUnicode =>
      "Input should be a valid string, unable to parse raw data as a unicode string"
  | textTooShort least =>
      "String should have at least " ++ toString least
        ++ (if least = 1 then " character" else " characters")
  | notInteger => "Input should be a valid integer"
  | notWhole => "Input should be a valid integer, got a number with a fractional part"
  | notIntegerText => "Input should be a valid integer, unable to parse string as an integer"
  | integerTooLong =>
      "Unable to parse input string as an integer, exceeded maximum size"
  | notFinite => "Input should be a finite number"
  | notTruth => "Input should be a valid boolean"
  | notTruthWord => "Input should be a valid boolean, unable to interpret input"
  | notList => "Input should be a valid list"
  | notMap => "Input should be a valid dictionary"
  | notPath => "Input is not a valid path for <class 'pathlib.Path'>"
  | notDatetime => "Input should be a valid datetime"
  | notDate fault => "Input should be a valid datetime or date, " ++ fault.message
  | notTime fault => "Input should be a valid datetime, " ++ fault.message
  | negativeNumber => "Input should be greater than or equal to 0"
  | notNumber => "Input should be a valid number"
  | notNumberText => "Input should be a valid number, unable to parse string as a number"
  | notOneOf words => "Input should be " ++ alternatives words
  | rule message => "Value error, " ++ message

end IssueKind

/-- Something wrong with a value at a location, from the outermost name inwards. -/
structure Issue where
  location : List String
  kind : IssueKind
  input : Value

namespace Issue

def text (issue : Issue) : String :=
  joinWith "." issue.location ++ " [" ++ issue.kind.word ++ "] " ++ issue.kind.message

def textAll (issues : List Issue) : String := joinWith "; " (issues.map text)

/-! ## Reports -/

/-- The number of octets in UTF-8 up to which a literal is shown in full. -/
def shownLimit : Nat := 50

/-- The longest start of a text that has at most so many octets. -/
def startWithin (limit : Nat) : List Char → List Char
  | [] => []
  | c :: rest => if c.utf8Size ≤ limit then c :: startWithin (limit - c.utf8Size) rest else []

/-- A literal, of which a long one is cut to its first and last octets. -/
def shownLiteral (literal : String) : String :=
  if literal.utf8ByteSize ≤ shownLimit then literal
  else
    let start := startWithin (shownLimit / 2) literal.toList
    let stop := startWithin (shownLimit / 2 - 1) literal.toList.reverse
    String.ofList start ++ "..." ++ String.ofList stop.reverse

/-- An issue with the value that has it, in lines of a report. The guide is where kinds of issues
are explained. -/
def paragraph (guide : String) (issue : Issue) : String :=
  let place := if issue.location.isEmpty then "" else "\n" ++ joinWith "." issue.location
  place ++ "\n  " ++ issue.kind.message ++ " [type=" ++ issue.kind.word ++ ", input_value="
    ++ shownLiteral issue.input.literal ++ ", input_type=" ++ issue.input.typeName
    ++ "]\n    For further information visit " ++ guide ++ issue.kind.word

/-- A report on what was checked: the number of issues, and each with the value that has it. -/
def report (guide subject : String) (issues : List Issue) : String :=
  toString issues.length ++ " validation error" ++ (if issues.length = 1 then "" else "s")
    ++ " for " ++ subject ++ String.join (issues.map (paragraph guide))

end Issue

/-- The outcome of a check: all that is wrong, or the value in its type. -/
abbrev Checked (α : Type) := Except (List Issue) α

namespace Checked

def wrong {α : Type} (location : List String) (kind : IssueKind) (input : Value) : Checked α :=
  .error [⟨location, kind, input⟩]

/-- Two checks, whose issues are collected in order. -/
def both {α β : Type} (first : Checked α) (second : Checked β) : Checked (α × β) :=
  match first, second with
  | .ok left, .ok right => .ok (left, right)
  | .error issues, .ok _ => .error issues
  | .ok _, .error issues => .error issues
  | .error issues, .error more => .error (issues ++ more)

/-- The check of every member, whose issues are collected in order. -/
def all {α β : Type} (check : α → Checked β) : List α → Checked (List β)
  | [] => .ok []
  | item :: rest => (both (check item) (all check rest)).map fun pair => pair.1 :: pair.2

end Checked

namespace Value

/-- A text; octets are read as UTF-8. -/
def checkText (location : List String) : Value → Checked String
  | .str text => .ok text
  | .bytes octets =>
      match Text.Utf8.decodeExact? octets with
      | some text => .ok text
      | none => .wrong location .notUnicode (.bytes octets)
  | .buffer octets =>
      match Text.Utf8.decodeExact? octets with
      | some text => .ok text
      | none => .wrong location .notUnicode (.buffer octets)
  | item => .wrong location .notText item

def checkName (location : List String) (item : Value) : Checked String := do
  let text ← item.checkText location
  if text.isEmpty then .wrong location (.textTooShort 1) item else .ok text

/-! ## Truth values -/

def trueWords : List String := ["1", "on", "t", "true", "y", "yes"]

def falseWords : List String := ["0", "off", "f", "false", "n", "no"]

/-- A truth value written as a word, in letters of any case. -/
def truthWord? (word : String) : Option Bool :=
  let word := word.map Char.toLower
  if trueWords.contains word then some true
  else if falseWords.contains word then some false
  else none

def isWord (whole : Int) : Bool := decide (-(2 ^ 63) ≤ whole) && decide (whole < 2 ^ 63)

/-- What a value of an integer or of a word says, and what is wrong where it says nothing. -/
def truthOf (item : Value) : Except IssueKind Bool :=
  let ofInt (whole : Int) : Except IssueKind Bool :=
    if whole = 0 then .ok false else if whole = 1 then .ok true else .error .notTruthWord
  let ofWord (word : Option String) : Except IssueKind Bool :=
    match word.bind truthWord? with
    | some truth => .ok truth
    | none => .error .notTruthWord
  match item with
  | .bool truth => .ok truth
  | .str word => ofWord (some word)
  | .bytes octets => ofWord (Text.Utf8.decodeExact? octets)
  | .int whole => if isWord whole then ofInt whole else .error .notTruth
  | .float number =>
      match number.toInt? with
      | some whole => if whole.natAbs < 2 ^ 63 then ofInt whole else .error .notTruth
      | none => .error .notTruth
  | _ => .error .notTruth

/-- A truth value, the numbers 0 and 1, or a word for one. -/
def checkTruth (location : List String) (item : Value) : Checked Bool :=
  (truthOf item).mapError fun kind => [⟨location, kind, item⟩]

/-! ## Times -/

def timeTextIssue? (text : String) : Option IssueKind :=
  (Text.Datetime.fault? text).map fun fault =>
    if fault = .yearZero then .notTime fault else .notDate fault

/-- The text of octets. Where they are no text each one stands for itself, and those above ASCII
for a character that no time has. -/
def octetText (octets : List UInt8) : String :=
  (Text.Utf8.decodeExact? octets).getD <|
    String.ofList (octets.map fun octet => if octet < 0x80 then Char.ofNat octet.toNat else '\x7f')

/-- What is wrong with a value as a time. An integer that no datum is near to is none. -/
def timeIssue? : Value → Option IssueKind
  | .nothing => none
  | .str text => timeTextIssue? text
  | .bytes octets => timeTextIssue? (octetText octets)
  | .int whole =>
      if (Binary64.ofRatio false whole.natAbs 1) matches .infinite _ then some .notDatetime
      else (Text.Datetime.countFault? whole).map IssueKind.notTime
  | .float number => (Text.Datetime.datumFault? number).map IssueKind.notTime
  | _ => some .notDatetime

/-- Whether a time is given, as a count or in writing. -/
def checkTime (location : List String) (item : Value) : Checked Bool :=
  match timeIssue? item with
  | some kind => .wrong location kind item
  | none => .ok (!item.isNothing)

/-! ## Record ids -/

/-- The integer that a floating-point number equals, if its size is below two to the 63rd. -/
def wholeOf (number : Binary64) : Except IssueKind Int :=
  match number with
  | .finite .. =>
      match number.toInt? with
      | some whole => if whole.natAbs < 2 ^ 63 then .ok whole else .error .integerTooLong
      | none => .error .notWhole
  | _ => .error .notFinite

def idInteger (item : Value) : Except IssueKind Int :=
  match item with
  | .int whole => .ok whole
  | .bool truth => .ok truth.toInt
  | .float number => wholeOf number
  | .bytes octets =>
      match (Text.Utf8.decodeExact? octets).bind Text.Numeral.readInteger? with
      | some whole => .ok whole
      | none => .error .notIntegerText
  | _ => .error .notInteger

/-- A record id: integers and texts as they are, else the integer or the text that a value
stands for. -/
def checkId (location : List String) (item : Value) : Checked Id :=
  match item with
  | .int whole => .ok (.int whole)
  | .str text => .ok (.str text)
  | item =>
      match idInteger item, item.checkText (location ++ ["str"]) with
      | .ok whole, _ => .ok (.int whole)
      | .error _, .ok text => .ok (.str text)
      | .error kind, .error issues => .error (⟨location ++ ["int"], kind, item⟩ :: issues)

@[simp] theorem checkId_value (location : List String) (id : Id) :
    id.value.checkId location = .ok id := by
  cases id <;> rfl

end Value

end ShadowIndex
