/-!
Contract: binary floating-point data of 64 bits, exact and without machine arithmetic.

Owns:
- `Binary64`, whose finite data are significand and exponent in the one normal form;
- rounding of a ratio to the nearest datum, a tie to the even significand;
- comparison with integers and with each other.

Does not own: reading and writing in decimal.
-/

set_option autoImplicit false

-- Powers are the built-in ones, whichever other powers are known where they are written.
attribute [instance (2000)] instPowNat

attribute [default_instance 20000] instPowNat

namespace ShadowIndex

/-- A finite datum stands for `± significand * 2 ^ exponent`. Zero has exponent 0; any other
significand is below `2 ^ 53`, and at least `2 ^ 52` unless the exponent is the least, -1074.
Data that are not a number are told apart by their payload alone. -/
inductive Binary64 where
  | nan (payload : Nat)
  | infinite (negative : Bool)
  | finite (negative : Bool) (significand : Nat) (exponent : Int)
deriving DecidableEq, Repr, Inhabited

namespace Binary64

def leastExponent : Int := -1074

def greatestExponent : Int := 971

def zero : Binary64 := .finite false 0 0

/-- A quotient rounded to the nearest integer, a tie to the even one. -/
def roundedQuotient (numerator denominator : Nat) : Nat :=
  let quotient := numerator / denominator
  let twice := 2 * (numerator % denominator)
  if twice < denominator then quotient
  else if denominator < twice then quotient + 1
  else if quotient % 2 = 0 then quotient
  else quotient + 1

/-- Numerator and denominator of `numerator / denominator / 2 ^ exponent`. -/
def scaled (numerator denominator : Nat) (exponent : Int) : Nat × Nat :=
  (numerator * 2 ^ (-exponent).toNat, denominator * 2 ^ exponent.toNat)

/-- The exponent at which a positive ratio has a significand of 53 bits, or the least one. -/
def exponentOf (numerator denominator : Nat) : Int :=
  let estimate : Int := (numerator.log2 : Int) - (denominator.log2 : Int) - 52
  let parts := scaled numerator denominator estimate
  let exact := if parts.1 / parts.2 < 2 ^ 52 then estimate - 1 else estimate
  if exact < leastExponent then leastExponent else exact

def ofRatio (negative : Bool) (numerator denominator : Nat) : Binary64 :=
  if numerator = 0 then .finite negative 0 0
  else
    let exponent := exponentOf numerator denominator
    let parts := scaled numerator denominator exponent
    let significand := roundedQuotient parts.1 parts.2
    let carried := decide (significand = 2 ^ 53)
    let exponent := if carried then exponent + 1 else exponent
    let significand := if carried then 2 ^ 52 else significand
    if greatestExponent < exponent then .infinite negative
    else if significand = 0 then .finite negative 0 0
    else .finite negative significand exponent

def isZero : Binary64 → Bool
  | .finite _ significand _ => significand = 0
  | _ => false

def toInt? : Binary64 → Option Int
  | .finite negative significand exponent =>
      let size : Option Nat :=
        if 0 ≤ exponent then some (significand * 2 ^ exponent.toNat)
        else
          let unit := 2 ^ (-exponent).toNat
          if significand % unit = 0 then some (significand / unit) else none
      size.map fun size => if negative then -(size : Int) else (size : Int)
  | _ => none

/-- The numerator of a finite datum over the denominator `2 ^ 1074`. -/
def numerator (negative : Bool) (significand : Nat) (exponent : Int) : Int :=
  let size : Int := (significand * 2 ^ (exponent - leastExponent).toNat : Nat)
  if negative then -size else size

/-- The order of two data; none with a datum that is not a number. -/
def compare? : Binary64 → Binary64 → Option Ordering
  | .nan _, _ => none
  | _, .nan _ => none
  | .infinite left, .infinite right => some (compare right.toNat left.toNat)
  | .infinite negative, .finite .. => some (if negative then .lt else .gt)
  | .finite .., .infinite negative => some (if negative then .gt else .lt)
  | .finite leftSign leftSize leftExponent, .finite rightSign rightSize rightExponent =>
      some (compare (numerator leftSign leftSize leftExponent)
        (numerator rightSign rightSize rightExponent))

/-- The order of a datum and an integer; none for a datum that is not a number. -/
def compareInt? : Binary64 → Int → Option Ordering
  | .nan _, _ => none
  | .infinite negative, _ => some (if negative then .lt else .gt)
  | .finite negative size exponent, whole =>
      some (compare (numerator negative size exponent) (whole * 2 ^ 1074))

/-- Equality of numbers: the two zeros are equal, and no datum equals what is not a number. -/
def same (left right : Binary64) : Bool := compare? left right == some .eq

def sameInt (datum : Binary64) (whole : Int) : Bool := datum.toInt? == some whole

end Binary64

end ShadowIndex
