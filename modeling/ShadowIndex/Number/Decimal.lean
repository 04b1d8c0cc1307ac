import ShadowIndex.Number.Binary64

/-!
Contract: decimal texts of binary floating-point data.

Owns:
- `Decimal.shortest`, the fewest digits that read back as a datum, nearest to it among those;
- `Binary64.text`: positional up to 10^16 with at least one decimal place, and elsewhere with an
  exponent; a `NumberStyle` says where the positional form starts and how exponents are padded;
- `Binary64.read?`, the datum nearest to a decimal text.

Does not own: which values are written as numbers.
-/

set_option autoImplicit false

namespace ShadowIndex

namespace Decimal

/-- Decimal digits, and the power of ten that the last of them counts. -/
structure Digits where
  whole : Nat
  power : Int
deriving DecidableEq, Repr

/-- How many digits stand before the point in `significand * 2 ^ exponent`; zero or less when
the first digit comes after the point. -/
def integerPlaces (significand : Nat) (exponent : Int) : Int :=
  let shift : Nat := 330
  let whole := significand * 2 ^ exponent.toNat * 10 ^ shift / 2 ^ (-exponent).toNat
  ((Nat.toDigits 10 whole).length : Int) - (shift : Int)

/-- Whether `point * 10 ^ power` lies among the numbers that round to a datum: up to half the
distance to each neighbour, both ends included exactly when the significand is even. -/
def readsBack (significand : Nat) (exponent power : Int) (point : Nat) : Bool :=
  let scale := 2 ^ exponent.toNat * 10 ^ (-power).toNat
  let unit := 2 ^ (-exponent).toNat * 10 ^ power.toNat
  let gapBelow := if significand = 2 ^ 52 ∧ Binary64.leastExponent < exponent then 1 else 2
  let low := (4 * significand - gapBelow) * scale
  let high := (4 * significand + 2) * scale
  let here := 4 * unit * point
  if significand % 2 = 0 then decide (low ≤ here) && decide (here ≤ high)
  else decide (low < here) && decide (here < high)

/-- The point of the grid `10 ^ power` nearest to a datum among those that read back. -/
def onGrid? (significand : Nat) (exponent power : Int) : Option Nat :=
  let scale := 2 ^ exponent.toNat * 10 ^ (-power).toNat
  let unit := 2 ^ (-exponent).toNat * 10 ^ power.toNat
  let below := significand * scale / unit
  let nearest := Binary64.roundedQuotient (significand * scale) unit
  let farther := if nearest = below then below + 1 else below
  [nearest, farther].find? (readsBack significand exponent power)

/-- The first of the grids of one digit more each on which a datum reads back. -/
def shortestFrom (significand : Nat) (exponent places : Int) : Nat → Nat → Digits
  | 0, used => ⟨0, places - used⟩
  | left + 1, used =>
      let power := places - ((used : Int) + 1)
      match onGrid? significand exponent power with
      | some whole => ⟨whole, power⟩
      | none => shortestFrom significand exponent places left (used + 1)

/-- The fewest digits that read back as `significand * 2 ^ exponent`; seventeen always do. -/
def shortest (significand : Nat) (exponent : Int) : Digits :=
  shortestFrom significand exponent (integerPlaces significand exponent) 17 0

def stripZeros (digits : List Char) : List Char :=
  (digits.reverse.dropWhile (· == '0')).reverse

def zeros (count : Int) : List Char := List.replicate count.toNat '0'

/-- How digits are written: positionally if at most `leadingZeros` zeros stand between the point
and the first digit, and else with an exponent of at least `exponentDigits` digits. -/
structure NumberStyle where
  leadingZeros : Nat
  exponentDigits : Nat
deriving DecidableEq, Repr

def plainStyle : NumberStyle := ⟨3, 2⟩

def jsonStyle : NumberStyle := ⟨4, 1⟩

/-- Decimal digits written with a point or with an exponent. -/
def Digits.write (style : NumberStyle) (digits : Digits) : List Char :=
  let all := Nat.toDigits 10 digits.whole
  let places : Int := all.length + digits.power
  let shown := stripZeros all
  if -(style.leadingZeros : Int) ≤ places ∧ places ≤ 16 then
    if places ≤ 0 then '0' :: '.' :: zeros (-places) ++ shown
    else
      let whole := shown.take places.toNat
      let rest := shown.drop places.toNat
      whole ++ zeros (places - whole.length) ++ '.' :: (if rest.isEmpty then ['0'] else rest)
  else
    let tail := shown.drop 1
    let exponent := places - 1
    let power := Nat.toDigits 10 exponent.natAbs
    shown.take 1 ++ (if tail.isEmpty then [] else '.' :: tail)
      ++ 'e' :: (if exponent < 0 then '-' else '+')
        :: zeros ((style.exponentDigits : Int) - power.length) ++ power

end Decimal

namespace Binary64

def signed (negative : Bool) (text : List Char) : String :=
  String.ofList (if negative then '-' :: text else text)

def textIn (style : Decimal.NumberStyle) : Binary64 → String
  | .nan _ => "nan"
  | .infinite negative => signed negative "inf".toList
  | .finite negative significand exponent =>
      if significand = 0 then signed negative "0.0".toList
      else signed negative ((Decimal.shortest significand exponent).write style)

def text (datum : Binary64) : String := datum.textIn Decimal.plainStyle

/-! ## Reading -/

def digitsValue (digits : List Char) : Nat :=
  digits.foldl (fun value digit => value * 10 + (digit.toNat - '0'.toNat)) 0

def splitSign : List Char → Bool × List Char
  | '-' :: rest => (true, rest)
  | '+' :: rest => (false, rest)
  | text => (false, text)

/-- A power of ten after an exponent mark; nothing is the power zero. -/
def readPower? : List Char → Option Int
  | [] => some 0
  | mark :: rest =>
      let (negative, digits) := splitSign rest
      if mark.toLower = 'e' ∧ digits ≠ [] ∧ digits.all Char.isDigit then
        some (if negative then -(digitsValue digits : Int) else (digitsValue digits : Int))
      else none

/-- The datum nearest to `whole * 10 ^ power`. A number of 400 places in front of the point is
infinite, and one with 400 zeros behind it is zero. -/
def ofDigits (negative : Bool) (whole : Nat) (power : Int) : Binary64 :=
  let places : Int := (Nat.toDigits 10 whole).length + power
  if whole = 0 ∨ places < -400 then .finite negative 0 0
  else if 400 < places then .infinite negative
  else ofRatio negative (whole * 10 ^ power.toNat) (10 ^ (-power).toNat)

/-- The datum nearest to digits with an optional point and an optional exponent. -/
def readDigits? (negative : Bool) (text : List Char) : Option Binary64 :=
  let whole := text.takeWhile Char.isDigit
  let rest := text.dropWhile Char.isDigit
  let (places, rest) := match rest with
    | '.' :: more => (more.takeWhile Char.isDigit, more.dropWhile Char.isDigit)
    | _ => ([], rest)
  if whole = [] ∧ places = [] then none
  else
    (readPower? rest).map fun (power : Int) =>
      let power : Int := power - (places.length : Int)
      ofDigits negative (digitsValue (whole ++ places)) power

/-- The datum that a decimal text denotes. -/
def read? (text : String) : Option Binary64 :=
  let (negative, size) := splitSign text.toList
  let word := size.map Char.toLower
  if word = "nan".toList then some (.nan 0)
  else if word = "inf".toList ∨ word = "infinity".toList then some (.infinite negative)
  else readDigits? negative size

end Binary64

example : (Binary64.read? "0.1").map Binary64.text = some "0.1" := by decide +kernel
example : (Binary64.read? "1e16").map Binary64.text = some "1e+16" := by decide +kernel
example : (Binary64.read? "12e-6").map (Binary64.textIn Decimal.jsonStyle) = some "0.000012" := by
  decide +kernel
example : (Binary64.read? "2e-8").map (Binary64.textIn Decimal.jsonStyle) = some "2e-8" := by
  decide +kernel

end ShadowIndex
