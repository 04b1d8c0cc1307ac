import ShadowIndex.Number.Decimal

/-!
Contract: decimal texts of binary floating-point data with a given precision.

Owns: the three forms of such a text. A fixed text has that many places after the point; a
scientific one has one digit before the point, and an exponent; a general one has that many
digits in all, in the form that suits its size, without zeros at the end. All are exact values
rounded to nearest, a tie to the even digit.

Does not own: the text with the fewest digits.
-/

set_option autoImplicit false

namespace ShadowIndex

/-- The forms of a text with a given precision. -/
inductive PlaceForm where
  | fixed
  | scientific
  | general
deriving DecidableEq, Repr

namespace Decimal

/-- `significand * 2 ^ exponent * 10 ^ power`, rounded. -/
def roundedAt (significand : Nat) (exponent power : Int) : Nat :=
  Binary64.roundedQuotient (significand * 2 ^ exponent.toNat * 10 ^ power.toNat)
    (2 ^ (-exponent).toNat * 10 ^ (-power).toNat)

/-- Digits with a point before the last `places` of them. A point with nothing behind it is
written only when it is `kept`. -/
def pointed (places : Nat) (kept : Bool) (digits : List Char) : List Char :=
  let padded := List.replicate (places + 1 - digits.length) '0' ++ digits
  let whole := padded.length - places
  padded.take whole ++ (if places = 0 ∧ !kept then [] else '.' :: padded.drop whole)

def fixed (places : Nat) (kept : Bool) (significand : Nat) (exponent : Int) : List Char :=
  pointed places kept (Nat.toDigits 10 (roundedAt significand exponent places))

/-- The digits of a datum with `places` of them behind the first, and the power of ten of the
first. -/
def leading (places : Nat) (significand : Nat) (exponent : Int) : Nat × Int :=
  if significand = 0 then (0, 0)
  else
    let first := integerPlaces significand exponent - 1
    let whole := roundedAt significand exponent (places - first)
    if whole = 10 ^ (places + 1) then (10 ^ places, first + 1) else (whole, first)

/-- An exponent mark, with a sign and at least two digits. -/
def exponentMark (power : Int) : List Char :=
  let digits := Nat.toDigits 10 power.natAbs
  'e' :: (if power < 0 then '-' else '+') :: zeros (2 - digits.length) ++ digits

def scientific (places : Nat) (kept : Bool) (significand : Nat) (exponent : Int) : List Char :=
  let (whole, power) := leading places significand exponent
  pointed places kept (Nat.toDigits 10 whole) ++ exponentMark power

/-- A text with a point, without zeros at its end, nor the point if nothing is left behind it. -/
def stripPlaces (text : List Char) : List Char :=
  if text.contains '.' then
    ((text.reverse.dropWhile (· == '0')).dropWhile (· == '.')).reverse
  else text

/-- Fixed when the first digit stands at most four places behind the point and the last one not
in front of it; zeros at the end stay only when the point is `kept`. -/
def general (precision : Nat) (kept : Bool) (significand : Nat) (exponent : Int) : List Char :=
  let count := max precision 1
  let (whole, power) := leading (count - 1) significand exponent
  let strip (text : List Char) := if kept then text else stripPlaces text
  if -4 ≤ power ∧ power < count then
    strip (fixed ((count : Int) - 1 - power).toNat kept significand exponent)
  else strip (pointed (count - 1) kept (Nat.toDigits 10 whole)) ++ exponentMark power

end Decimal

namespace Binary64

/-- The text of a datum without its sign. -/
def sizeText (form : PlaceForm) (precision : Nat) (kept : Bool) : Binary64 → List Char
  | .nan _ => "nan".toList
  | .infinite _ => "inf".toList
  | .finite _ significand exponent =>
      match form with
      | .fixed => Decimal.fixed precision kept significand exponent
      | .scientific => Decimal.scientific precision kept significand exponent
      | .general => Decimal.general precision kept significand exponent

def isNegative : Binary64 → Bool
  | .nan _ => false
  | .infinite negative | .finite negative _ _ => negative

/-- The integer that a finite datum has before its point. -/
def truncated? : Binary64 → Option Int
  | .finite negative significand exponent =>
      let size : Int := (significand * 2 ^ exponent.toNat / 2 ^ (-exponent).toNat : Nat)
      some (if negative then -size else size)
  | _ => none

/-- The greatest integer that a finite datum is not below. -/
def floor? : Binary64 → Option Int
  | .finite negative significand exponent =>
      let size : Int := (significand * 2 ^ exponent.toNat : Nat)
      some (Int.fdiv (if negative then -size else size) (2 ^ (-exponent).toNat : Nat))
  | _ => none

end Binary64

example : (Binary64.read? "2.25").map (Binary64.sizeText .fixed 1 false) = some "2.2".toList := by
  decide +kernel
example : (Binary64.read? "9.96").map (Binary64.sizeText .scientific 1 false)
    = some "1.0e+01".toList := by decide +kernel

end ShadowIndex
