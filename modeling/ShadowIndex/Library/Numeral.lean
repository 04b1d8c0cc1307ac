import ShadowIndex.Number.Decimal
import ShadowIndex.Text.Blank

/-!
Contract: numerals, the written forms of numbers that the library for checks accepts.

Owns:
- `Numeral.readInteger?`: white space around it, a plus sign, zeros in front, and a point with
  zeros behind it are dropped, as are single underscores; what is left is a plain integer;
- `Numeral.readFloat?`: a decimal text with white space around it, or with single underscores.

Does not own: which values are read leniently.
-/

set_option autoImplicit false

namespace ShadowIndex.Text.Numeral

/-- White space in the sense of Unicode: a blank that is no information separator. -/
def isWhiteSpace (c : Char) : Bool := isBlank c && !inRanges [(0x1C, 0x1F)] c.toNat

def trimWhite (text : List Char) : List Char :=
  ((text.dropWhile isWhiteSpace).reverse.dropWhile isWhiteSpace).reverse

def hasDouble : List Char → Bool
  | '_' :: '_' :: _ => true
  | _ :: rest => hasDouble rest
  | [] => false

/-- A text without its underscores, if none stands at an end or next to another one. -/
def dropUnderscores? (text : List Char) : Option (List Char) :=
  if text.head? = some '_' ∨ text.getLast? = some '_' ∨ hasDouble text then none
  else some (text.filter (· != '_'))

/-! ## Integers -/

/-- Drops a plus sign, behind which no minus sign may stand. -/
def dropPlus? : List Char → Option (List Char)
  | '+' :: '-' :: _ => none
  | '+' :: rest => some rest
  | text => some text

/-- What follows the zeros and underscores behind a zero: a digit or a minus sign begins the
number, a point takes the character before it along, and at the end the last character is left. -/
def dropZerosBehind? (last : Char) : List Char → Option (List Char)
  | [] => some [last]
  | c :: rest =>
      if c = '0' ∨ c = '_' then dropZerosBehind? c rest
      else if c.isDigit ∨ c = '-' then some (c :: rest)
      else if c = '.' then some (last :: c :: rest)
      else none

/-- Drops zeros in front of a number, which begins with a digit or a minus sign. -/
def dropZeros? : List Char → Option (List Char)
  | [] => none
  | c :: rest =>
      if c = '0' then dropZerosBehind? c rest
      else if c.isDigit ∨ c = '-' then some (c :: rest)
      else none

/-- Drops a point and the zeros behind it, of which there has to be one. -/
def dropPlaces? (text : List Char) : Option (List Char) :=
  match text.dropWhile (· != '.') with
  | [] => some text
  | _ :: places =>
      if !places.isEmpty && places.all (· == '0') then some (text.takeWhile (· != '.')) else none

/-- The number of digits up to which a text is read as an integer. -/
def digitLimit : Nat := 4300

/-- The integer of digits without a zero in front, behind an optional minus sign. -/
def plainInteger? (text : List Char) : Option Int :=
  let negative := text.head? = some '-'
  let digits := if negative then text.drop 1 else text
  if digits.isEmpty || !digits.all Char.isDigit || (digits.head? = some '0' && digits.length ≠ 1)
      || digitLimit < digits.length then none
  else
    let size : Int := Binary64.digitsValue digits
    some (if negative then -size else size)

def readInteger? (text : String) : Option Int := do
  let signed ← dropPlus? (trimWhite text.toList)
  let whole ← dropPlaces? (← dropZeros? signed)
  plainInteger? (← dropUnderscores? whole)

example : readInteger? " +0_1_2.00 " = some 12 ∧ readInteger? "-05" = none := by decide +kernel
example : readInteger? "0-3" = some (-3) ∧ readInteger? "4." = none := by decide +kernel

/-! ## Decimal numbers -/

def readFloat? (text : String) : Option Binary64 :=
  match Binary64.read? (String.ofList (trimWhite text.toList)) with
  | some number => some number
  | none => (dropUnderscores? text.toList).bind fun plain => Binary64.read? (String.ofList plain)

end ShadowIndex.Text.Numeral
