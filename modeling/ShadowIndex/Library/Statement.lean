import ShadowIndex.Failure.Fault
import ShadowIndex.Text.Quoted

/-!
Contract: the value that a statement gives to a setting of a database, in writing, as the database
reads it.

Owns:
- `Lexeme.read`, the first lexeme of a text: a name, a number, a sign, the end of a statement, or
  something that no setting takes;
- `Statement.setting`, the value that a text stands for behind the name of a setting: a name or a
  text without its marks, or a number with its sign. Nothing but comments may follow it.

Main statements: `length_skipBlank_le`, and every lexeme is a start of the text it is read from.

Does not own: the settings.
-/

set_option autoImplicit false

namespace ShadowIndex

/-- What a lexeme is to the value of a setting. -/
inductive LexemeKind where
  | name (value : String)
  | number
  | plus
  | minus
  | stop
  | other
  | broken
deriving DecidableEq, Repr

structure Lexeme where
  kind : LexemeKind
  size : Nat
deriving DecidableEq, Repr

namespace Lexeme

def isNamePart (c : Char) : Bool := c.isAlphanum || c == '_' || c == '$' || 0x80 ≤ c.toNat

def isHexDigit (c : Char) : Bool :=
  c.isDigit || ('a' ≤ c.toLower && c.toLower ≤ 'f')

/-- Words that are no names. -/
def reservedWords : List String :=
  ["add", "all", "alter", "and", "as", "autoincrement", "between", "case", "check", "collate",
   "commit", "constraint", "create", "deferrable", "distinct", "drop", "else", "escape",
   "except", "exists", "foreign", "from", "group", "having", "in", "index", "insert",
   "intersect", "into", "is", "isnull", "join", "limit", "not", "nothing", "notnull", "null",
   "or", "order", "primary", "references", "returning", "select", "set", "table", "then", "to",
   "transaction", "union", "unique", "update", "using", "values", "when", "where"]

def readName (text : List Char) : Lexeme :=
  let word := String.ofList (text.takeWhile isNamePart)
  ⟨if reservedWords.contains (word.map Char.toLower) then .other else .name word, word.length⟩

/-- The text up to a mark, in which the mark is written twice, and its size with the mark. -/
def readUpTo? (mark : Char) : List Char → Option (List Char × Nat)
  | [] => none
  | c :: rest =>
      if c = mark then
        match rest with
        | next :: more =>
            if next = mark then
              (readUpTo? mark more).map fun parts => (mark :: parts.1, parts.2 + 2)
            else some ([], 1)
        | [] => some ([], 1)
      else (readUpTo? mark rest).map fun parts => (c :: parts.1, parts.2 + 1)

def readQuoted (mark : Char) (text : List Char) : Lexeme :=
  match readUpTo? mark (text.drop 1) with
  | some (inside, size) => ⟨.name (String.ofList inside), size + 1⟩
  | none => ⟨.broken, text.length⟩

def readBracketed (text : List Char) : Lexeme :=
  let inside := (text.drop 1).takeWhile (· != ']')
  if inside.length + 1 < text.length then
    ⟨.name (String.ofList inside), inside.length + 2⟩
  else ⟨.broken, text.length⟩

/-- The size of an exponent, which has digits. -/
def exponentSize : List Char → Nat
  | mark :: rest =>
      let digits := if rest.head? = some '+' ∨ rest.head? = some '-' then rest.drop 1 else rest
      if mark.toLower = 'e' ∧ digits.head?.any Char.isDigit then
        1 + (rest.length - digits.length)
          + (digits.takeWhile fun c => c.isDigit || c == '_').length
      else 0
  | [] => 0

def numberSize (text : List Char) : Nat :=
  let isPart (c : Char) := c.isDigit || c == '_'
  match text with
  | '0' :: mark :: digit :: rest =>
      if mark.toLower = 'x' ∧ isHexDigit digit then
        3 + (rest.takeWhile fun c => isHexDigit c || c == '_').length
      else decimalSize isPart text
  | text => decimalSize isPart text
where
  decimalSize (isPart : Char → Bool) (text : List Char) : Nat :=
    let whole := (text.takeWhile isPart).length
    let places :=
      match text.drop whole with
      | '.' :: rest => 1 + (rest.takeWhile isPart).length
      | _ => 0
    whole + places + exponentSize (text.drop (whole + places))

/-- A number. One with an underscore is no value, and one with a letter behind it is broken. -/
def readNumber (text : List Char) : Lexeme :=
  let size := numberSize text
  let tail := ((text.drop size).takeWhile isNamePart).length
  if tail ≠ 0 then ⟨.broken, size + tail⟩
  else ⟨if (text.take size).contains '_' then .other else .number, size⟩

/-- The size of a variable behind its mark: a name, in which double colons may stand, and perhaps
something between parentheses; nothing if it is broken. -/
def variableSize (named : Bool) : List Char → Nat × Bool
  | [] => (0, named)
  | ':' :: ':' :: rest => let (size, whole) := variableSize named rest; (size + 2, whole)
  | c :: rest =>
      if isNamePart c then let (size, whole) := variableSize true rest; (size + 1, whole)
      else if c = '(' ∧ named then
        let inside := rest.takeWhile fun d => d != ')' && !Char.isWhitespace d
        if (rest.drop inside.length).head? = some ')' then (inside.length + 2, true)
        else (inside.length + 1, false)
      else (0, named)

def readVariable (text : List Char) : Lexeme :=
  let (size, whole) := variableSize false (text.drop 1)
  ⟨if whole then .other else .broken, size + 1⟩

/-- Octets in hexadecimal between apostrophes, which no setting takes. -/
def readOctets (text : List Char) : Lexeme :=
  let digits := ((text.drop 2).takeWhile isHexDigit).length
  let inside := ((text.drop 2).takeWhile (· != Text.apostrophe)).length
  let closed := if inside + 2 < text.length then 1 else 0
  ⟨if digits = inside ∧ closed = 1 ∧ digits % 2 = 0 then .other else .broken, inside + 2 + closed⟩

/-- Signs of two or more characters that no setting takes. -/
def longSigns : List String := ["->>", "->", "==", "<=", "<>", "<<", ">=", ">>", "!=", "||"]

/-- Signs of one character that no setting takes. -/
def shortSigns : List Char :=
  ['(', ')', '*', '/', '%', '=', '<', '>', '|', ',', '&', '~', '.', '?']

/-- A sign, or a character that begins no lexeme. -/
def readSign (text : List Char) : Lexeme :=
  match longSigns.find? fun sign => sign.toList.isPrefixOf text with
  | some sign => ⟨.other, sign.length⟩
  | none =>
      match text with
      | '?' :: rest => ⟨.other, 1 + (rest.takeWhile Char.isDigit).length⟩
      | '+' :: _ => ⟨.plus, 1⟩
      | '-' :: _ => ⟨.minus, 1⟩
      | ';' :: _ => ⟨.stop, 1⟩
      | c :: _ => ⟨if shortSigns.contains c then .other else .broken, 1⟩
      | [] => ⟨.stop, 0⟩

def read (text : List Char) : Lexeme :=
  let second := text[1]?
  match text with
  | [] => ⟨.stop, 0⟩
  | c :: _ =>
      if (c = 'x' ∨ c = 'X') ∧ second = some Text.apostrophe then readOctets text
      else if c.isDigit ∨ (c = '.' ∧ second.any Char.isDigit) then readNumber text
      else if ['$', '@', '#', ':'].contains c then readVariable text
      else if isNamePart c then readName text
      else if [Text.apostrophe, Text.doubleQuote, '\x60'].contains c then readQuoted c text
      else if c = '[' then readBracketed text
      else readSign text

end Lexeme

namespace Statement

/-! ## Blanks and comments -/

def afterComment : List Char → List Char
  | '*' :: '/' :: rest => rest
  | _ :: rest => afterComment rest
  | [] => []

theorem length_afterComment_le (text : List Char) :
    (afterComment text).length ≤ text.length := by
  fun_induction afterComment text with
  | case1 => simp; omega
  | case2 _ _ _ inductionHypothesis => simp only [List.length_cons]; omega
  | case3 => simp

/-- A blank of statements; a byte order mark counts as one. -/
def isBlank (c : Char) : Bool := [' ', '\t', '\n', '\r', '\x0c', '\uFEFF'].contains c

def skipBlank (text : List Char) : List Char :=
  match text with
  | '-' :: '-' :: rest => skipBlank (rest.dropWhile (· != '\n'))
  | '/' :: '*' :: c :: rest => skipBlank (afterComment (c :: rest))
  | c :: rest => if isBlank c then skipBlank rest else c :: rest
  | [] => []
termination_by text.length
decreasing_by
  · have shorter := (List.dropWhile_sublist (l := rest) (· != '\n')).length_le
    simp only [List.length_cons]
    omega
  · have shorter := length_afterComment_le (c :: rest)
    simp only [List.length_cons] at *
    omega
  · simp

/-! ## Values of settings -/

def next (text : List Char) : Except DatabaseFault (LexemeKind × String × List Char) :=
  let start := skipBlank text
  let lexeme := Lexeme.read start
  let written := String.ofList (start.take lexeme.size)
  if lexeme.kind = .broken then .error (.notToken written)
  else .ok (lexeme.kind, written, start.drop lexeme.size)

/-- The fault of a lexeme that stands where it cannot. -/
def misplaced (written : String) : DatabaseFault :=
  if written = "" then .incomplete else .misplaced written

def signed (sign : String) (text : List Char) : Except DatabaseFault (String × List Char) := do
  match ← next text with
  | (.number, written, rest) => return (sign ++ written, rest)
  | (_, written, _) => throw (misplaced written)

def readValue (text : List Char) : Except DatabaseFault (String × List Char) := do
  match ← next text with
  | (.name value, _, rest) => return (value, rest)
  | (.number, written, rest) => return (written, rest)
  | (.plus, _, rest) => signed "" rest
  | (.minus, _, rest) => signed "-" rest
  | (_, written, _) => throw (misplaced written)

/-- What follows the end of a statement holds no further one. -/
def requireEnd (text : List Char) : Except DatabaseFault Unit :=
  match skipBlank text with
  | [] => .ok ()
  | '/' :: '*' :: [] => .ok ()
  | _ => .error .secondStatement

def setting (text : String) : Except DatabaseFault String := do
  if text.toList.contains '\x00' then throw .nullCharacter
  let (value, rest) ← readValue text.toList
  match ← next rest with
  | (.stop, _, rest) => requireEnd rest
  | (_, written, _) => throw (misplaced written)
  return value

end Statement

end ShadowIndex
