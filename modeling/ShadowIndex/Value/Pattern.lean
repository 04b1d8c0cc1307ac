import ShadowIndex.Failure
import ShadowIndex.Number.Places
import ShadowIndex.Text.Codes

/-!
Contract: patterns of messages, and their filling with values.

Owns:
- `Directive`, a percent sign with what follows it: a key, flags, a width, a precision, and the
  letter that says how a value is written;
- the values that directives take, one after the other or by key;
- `Pattern.fill`, the text of a pattern, or the first mismatch from the left.

Does not own: which values fill a message.
-/

set_option autoImplicit false

namespace ShadowIndex

/-! ## Directives -/

/-- A width or a precision: a number, or a star for one of the values. -/
inductive Extent where
  | count (number : Nat)
  | star
deriving DecidableEq, Repr

/-- A key between parentheses, which may lack its end. -/
inductive DirectiveKey where
  | absent
  | named (name : String)
  | unclosed
deriving DecidableEq, Repr

/-- A directive; `size` counts its characters behind the percent sign, and the last of them is
its letter. -/
structure Directive where
  key : DirectiveKey
  flags : List Char
  width : Option Extent
  precision : Option Extent
  letter : Option Char
  size : Nat
deriving DecidableEq, Repr

namespace Directive

/-- How many characters stand before the parenthesis that closes `depth` open ones. -/
def keySize? (depth : Nat) : List Char → Option Nat
  | [] => none
  | '(' :: rest => (keySize? (depth + 1) rest).map (· + 1)
  | ')' :: rest => if depth = 1 then some 0 else (keySize? (depth - 1) rest).map (· + 1)
  | _ :: rest => (keySize? depth rest).map (· + 1)

def readKey : List Char → DirectiveKey × Nat
  | '(' :: rest =>
      match keySize? 1 rest with
      | some size => (.named (String.ofList (rest.take size)), size + 2)
      | none => (.unclosed, rest.length + 1)
  | _ => (.absent, 0)

def isFlag (c : Char) : Bool := ['-', '+', ' ', '#', '0'].contains c

def readExtent : List Char → Option Extent × Nat
  | '*' :: _ => (some .star, 1)
  | text =>
      let digits := text.takeWhile Char.isDigit
      (if digits.isEmpty then none else some (.count (Binary64.digitsValue digits)),
        digits.length)

/-- A precision behind its point, and their size. A point alone is the precision zero. -/
def readPrecision : List Char → Option Extent × Nat
  | '.' :: rest =>
      let (extent, size) := readExtent rest
      (some (extent.getD (.count 0)), size + 1)
  | _ => (none, 0)

/-- A letter that says nothing: the width of a machine word. -/
def sizeLetter (text : List Char) : Nat :=
  match text with
  | c :: _ => if c = 'h' ∨ c = 'l' ∨ c = 'L' then 1 else 0
  | [] => 0

def read (text : List Char) : Directive :=
  let (key, keySize) := readKey text
  let flags := (text.drop keySize).takeWhile isFlag
  let widthAt := keySize + flags.length
  let (width, widthSize) := readExtent (text.drop widthAt)
  let precisionAt := widthAt + widthSize
  let (precision, precisionSize) := readPrecision (text.drop precisionAt)
  let letterAt := precisionAt + precisionSize + sizeLetter (text.drop (precisionAt + precisionSize))
  { key, flags, width, precision, letter := (text.drop letterAt).head?, size := letterAt + 1 }

end Directive

/-- A piece of a pattern; a directive knows the position of its percent sign. -/
inductive Piece where
  | plain (c : Char)
  | directive (directive : Directive) (position : Nat)

/-- The pieces of a pattern whose first character has a position. -/
def Piece.all (position : Nat) : List Char → List Piece
  | [] => []
  | c :: rest =>
      if c = '%' then
        let directive := Directive.read rest
        .directive directive position
          :: Piece.all (position + 1 + directive.size) (rest.drop directive.size)
      else .plain c :: Piece.all (position + 1) rest
termination_by text => text.length
decreasing_by all_goals simp only [List.length_drop, List.length_cons]; omega

/-! ## Values -/

/-- The values that are left, and the value that keys refer to. -/
structure Filling where
  source : Option Value
  left : List Value

/-- Whether members of a value can be asked for, so that keys may refer to it. -/
def Value.isSource : Value → Bool
  | .map _ | .record .. | .list _ | .bytes _ | .buffer _ | .range .. => true
  | _ => false

/-- The value under a key. Only maps have keys. -/
def Value.under (name : String) (source : Value) : Except Failure Value :=
  let ofPairs (pairs : List (Value × Value)) : Except Failure Value :=
    match pairs.find? fun pair => pair.1.text? = some name with
    | some pair => .ok pair.2
    | none => .error (.missingField name)
  let refused (noun : String) : Except Failure Value :=
    .error (.use "str" (.index noun))
  match source with
  | .map pairs | .record _ pairs => ofPairs pairs
  | .bytes _ => refused "byte"
  | source => refused source.typeName

namespace Filling

/-- A tuple is its values in a row; any other value stands alone. -/
def ofArguments : Value → Filling
  | .tuple items => ⟨none, items⟩
  | value => ⟨if value.isSource then some value else none, [value]⟩

def next (filling : Filling) : Except Failure (Value × Filling) :=
  match filling.left with
  | [] => .error (.pattern .tooFewArguments)
  | value :: rest => .ok (value, { filling with left := rest })

/-- The filling of a directive with a key: the value under the key, alone. -/
def select (filling : Filling) : DirectiveKey → Except Failure Filling
  | .absent => .ok filling
  | key =>
      match filling.source, key with
      | none, _ => .error (.pattern .mapRequired)
      | some source, .named name =>
          (source.under name).map fun value => { filling with left := [value] }
      | some _, _ => .error (.pattern .incompleteKey)

def extent (filling : Filling) (role : ExtentRole) :
    Option Extent → Except Failure (Option Int × Filling)
  | none => .ok (none, filling)
  | some (.count number) =>
      if role.fits number then .ok (some number, filling)
      else .error (.pattern (.extentTooBig role))
  | some .star => do
      let (value, filling) ← filling.next
      match value with
      | .int number =>
          if role.fits number then .ok (some number, filling)
          else .error (.pattern (.starRange role))
      | .bool truth => return (some truth.toInt, filling)
      | _ => .error (.pattern .starRequired)

end Filling

/-! ## Writing -/

/-- The parts of a written value: a sign, a mark of the base, and a body. -/
structure Written where
  sign : List Char
  base : List Char
  body : List Char

namespace Pattern

/-- What a directive asks of a text once its stars are known. -/
structure Layout where
  flags : List Char
  width : Int
  precision : Option Nat

namespace Layout

def has (layout : Layout) (flag : Char) : Bool := layout.flags.contains flag

/-- A written value, padded to the width: behind it for a minus or a width below zero, with
zeros in front of a number's body on request, and with spaces in front otherwise. -/
def pad (layout : Layout) (isNumber : Bool) (written : Written) : String :=
  let size := written.sign.length + written.base.length + written.body.length
  let missing := layout.width.natAbs - size
  let head := written.sign ++ written.base
  String.ofList <|
    if layout.has '-' ∨ layout.width < 0 then
      head ++ written.body ++ List.replicate missing ' '
    else if isNumber ∧ layout.has '0' then
      head ++ List.replicate missing '0' ++ written.body
    else List.replicate missing ' ' ++ head ++ written.body

def signOf (layout : Layout) (negative : Bool) : List Char :=
  if negative then ['-']
  else if layout.has '+' then ['+']
  else if layout.has ' ' then [' ']
  else []

/-- A text, cut to the precision. -/
def text (layout : Layout) (text : String) : String :=
  let all := text.toList
  layout.pad false ⟨[], [], (layout.precision.map fun limit => all.take limit).getD all⟩

/-- The greatest number of digits that an integer is written with on request. -/
def mostDigits : Nat := 2 ^ (ExtentRole.precision.bits - 1) - 4

/-- An integer in a base, with as many digits as the precision asks for. -/
def whole (layout : Layout) (base : Nat) (mark : List Char) (number : Int) :
    Except Failure Written :=
  let precision := layout.precision.getD 0
  let digits := Nat.toDigits base number.natAbs
  if mostDigits < precision then .error (.pattern .tooManyDigits)
  else
    .ok ⟨layout.signOf (decide (number < 0)), if layout.has '#' then mark else [],
      List.replicate (precision - digits.length) '0' ++ digits⟩

/-- No datum has as many digits as this. -/
def digitLimit : Nat := 1100

/-- The precision that counts for a number. Digits behind the last one of a datum would be zeros,
which a general form drops. The greatest precision that there is says nothing in a scientific
form. -/
def realPrecision (layout : Layout) (form : PlaceForm) : Nat :=
  let precision := layout.precision.getD 6
  match form with
  | .general => if layout.has '#' then precision else min precision digitLimit
  | .scientific => if precision + 1 = 2 ^ (ExtentRole.precision.bits - 1) then 0 else precision
  | .fixed => precision

def real (layout : Layout) (form : PlaceForm) (number : Binary64) : Written :=
  ⟨layout.signOf number.isNegative, [],
    number.sizeText form (layout.realPrecision form) (layout.has '#')⟩

end Layout

def upper (written : Written) : Written :=
  ⟨written.sign, written.base.map Char.toUpper, written.body.map Char.toUpper⟩

/-- The integer that a decimal directive writes: a number without its places. -/
def decimalOf (letter : Char) : Value → Except Failure Int
  | .int whole => .ok whole
  | .bool truth => .ok truth.toInt
  | .float number =>
      match number, number.truncated? with
      | _, some whole => .ok whole
      | .infinite _, none => .error (.notFinite true)
      | _, none => .error (.notFinite false)
  | value => .error (.pattern (.numberRequired letter value.typeName))

/-- The integer that a directive in another base writes. -/
def integerOf (letter : Char) : Value → Except Failure Int
  | .int whole => .ok whole
  | .bool truth => .ok truth.toInt
  | value => .error (.pattern (.integerRequired letter value.typeName))

/-- The datum of an integer, unless it is too large. -/
def realOfInt (whole : Int) : Except Failure Binary64 :=
  match Binary64.ofRatio (decide (whole < 0)) whole.natAbs 1 with
  | .infinite _ => .error (.pattern .realRange)
  | number => .ok number

def realOf : Value → Except Failure Binary64
  | .float number => .ok number
  | .int whole => realOfInt whole
  | .bool truth => realOfInt truth.toInt
  | value => .error (.pattern (.realRequired value.typeName))

/-- A character, or the code of a number. -/
def characterOf : Value → Except Failure (Option Char)
  | .str text =>
      match text.toList with
      | [c] => .ok (some c)
      | _ => .error (.pattern .characterRequired)
  | .int code =>
      if 0 ≤ code ∧ code < 0x110000 then .ok (Text.Codes.ofNumber code.toNat)
      else .error (.pattern .characterRange)
  | .bool truth => .ok (Text.Codes.ofNumber truth.toNat)
  | _ => .error (.pattern .characterRequired)

/-- A code, padded to the width with spaces. -/
def Layout.code (layout : Layout) (code : Option Char) : Text.Codes :=
  let mark := '\x00'
  match code with
  | some c => Text.Codes.ofText (layout.pad false ⟨[], [], [c]⟩)
  | none =>
      (layout.pad false ⟨[], [], [mark]⟩).toList.map fun c => if c = mark then none else some c

/-- A literal in ASCII: other characters are escaped by number. -/
def asciiLiteral (value : Value) : String :=
  String.ofList (value.literal.toList.flatMap fun c =>
    if c.toNat < 0x80 then [c] else Text.numberEscape c.toNat)

/-- A value as a letter asks for it; none for a letter without a meaning. -/
def convert? (layout : Layout) (letter : Char) (value : Value) :
    Option (Except Failure Text.Codes) :=
  let number (written : Written) : Text.Codes := .ofText (layout.pad true written)
  let wholeIn (base : Nat) (mark : List Char) := (integerOf letter value).bind (layout.whole base mark)
  let realAs (form : PlaceForm) := (realOf value).map (layout.real form)
  let text (form : String) := some (Except.ok (Text.Codes.ofText (layout.text form)))
  match letter with
  | 's' => text value.plain
  | 'r' => text value.literal
  | 'a' => text (asciiLiteral value)
  | 'd' | 'i' | 'u' =>
      some (((decimalOf letter value).bind (layout.whole 10 [])).map number)
  | 'o' => some ((wholeIn 8 ['0', 'o']).map number)
  | 'x' => some ((wholeIn 16 ['0', 'x']).map number)
  | 'X' => some ((wholeIn 16 ['0', 'x']).map (number ∘ upper))
  | 'e' => some ((realAs .scientific).map number)
  | 'E' => some ((realAs .scientific).map (number ∘ upper))
  | 'f' => some ((realAs .fixed).map number)
  | 'F' => some ((realAs .fixed).map (number ∘ upper))
  | 'g' => some ((realAs .general).map number)
  | 'G' => some ((realAs .general).map (number ∘ upper))
  | 'c' => some ((characterOf value).map layout.code)
  | _ => none

/-- No text is as wide as this. -/
def widthLimit : Nat := 2 ^ 40

/-- The codes of a directive, and the values it leaves. Two percent signs in a row are one. -/
def write (directive : Directive) (position : Nat) (filling : Filling) :
    Except Failure (Text.Codes × Filling) := do
  let filling ← filling.select directive.key
  let (width, filling) ← filling.extent .width directive.width
  let (precision, filling) ← filling.extent .precision directive.precision
  match directive.letter with
  | none => .error (.pattern .incomplete)
  | some letter =>
      if letter = '%' ∧ directive.size = 1 then return (.ofText "%", filling)
      let (value, filling) ← filling.next
      let width := width.getD 0
      let tooWide := decide (widthLimit < width.natAbs)
      let layout : Layout := ⟨directive.flags, if tooWide then 0 else width, precision.map Int.toNat⟩
      match convert? layout letter value with
      | some outcome =>
          let codes ← outcome
          if tooWide then throw (.pattern .tooWide)
          return (codes, filling)
      | none => .error (.pattern (.unknownConversion letter (position + directive.size)))

/-- Fills the pieces one after the other. Values in a row have to be used up. -/
def fillPieces : List Piece → Filling → Except Failure Text.Codes
  | [], filling =>
      if filling.source.isNone ∧ filling.left ≠ [] then .error (.pattern .tooManyArguments)
      else .ok []
  | .plain c :: rest, filling => (fillPieces rest filling).map (some c :: ·)
  | .directive directive position :: rest, filling => do
      let (codes, filling) ← write directive position filling
      return codes ++ (← fillPieces rest filling)

def fill (pattern : String) (arguments : Value) : Except Failure Text.Codes :=
  fillPieces (Piece.all 0 pattern.toList) (.ofArguments arguments)

end Pattern

end ShadowIndex
