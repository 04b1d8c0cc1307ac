import ShadowIndex.Failure
import ShadowIndex.Number.Binary64

/-!
Contract: times on the calendar.

Owns:
- `Timestamp`, whole seconds since the start of 1970 and the microseconds behind them;
- the reading of a value that counts seconds, rounded to microseconds;
- the calendar date of a day, and the text of a time in universal time.

Does not own: clocks.
-/

set_option autoImplicit false

namespace ShadowIndex

/-- A time in universal time; `micros` is below a million. -/
structure Timestamp where
  seconds : Int
  micros : Nat
deriving DecidableEq, Repr, Inhabited

structure CalendarDate where
  year : Int
  month : Nat
  day : Nat
deriving DecidableEq, Repr

namespace CalendarDate

def daysInEra : Nat := 146097

def daysInCentury : Nat := 36524

/-- The date of a day, counted from the first of January 1970. Eras have four hundred years, and
a year is counted from the first of March, so that a leap day is its last. -/
def ofDay (day : Int) : CalendarDate :=
  let shifted := day + 719468
  let era := Int.fdiv shifted daysInEra
  let dayOfEra := (Int.fmod shifted daysInEra).toNat
  let yearOfEra :=
    (dayOfEra - dayOfEra / 1460 + dayOfEra / daysInCentury - dayOfEra / (daysInEra - 1)) / 365
  let dayOfYear := dayOfEra - (365 * yearOfEra + yearOfEra / 4 - yearOfEra / 100)
  let fromMarch := (5 * dayOfYear + 2) / 153
  let month := if fromMarch < 10 then fromMarch + 3 else fromMarch - 9
  ⟨yearOfEra + era * 400 + (if month ≤ 2 then 1 else 0), month,
    dayOfYear - (153 * fromMarch + 2) / 5 + 1⟩

example : ofDay 0 = ⟨1970, 1, 1⟩ ∧ ofDay (-1) = ⟨1969, 12, 31⟩ ∧ ofDay 19782 = ⟨2024, 2, 29⟩ := by
  decide +kernel

end CalendarDate

namespace Timestamp

def million : Nat := 1000000

/-- Seconds and a signed count of microseconds, of which a whole second may be full. -/
def carried (seconds micros : Int) : Timestamp :=
  ⟨seconds + Int.fdiv micros million, (Int.fmod micros million).toNat⟩

/-- The datum nearest to a million times the places of a datum, rounded to an integer. -/
def microsOf (significand : Nat) (exponent : Int) : Nat :=
  let unit := 2 ^ (-exponent).toNat
  let places := significand * 2 ^ exponent.toNat % unit
  match Binary64.ofRatio false (places * million) unit with
  | .finite _ size power =>
      Binary64.roundedQuotient (size * 2 ^ power.toNat) (2 ^ (-power).toNat)
  | _ => 0

/-- A time whose seconds fit in 64 bits. -/
def checked (time : Timestamp) : Except Failure Timestamp :=
  if time.seconds < -(2 ^ 63) ∨ 2 ^ 63 ≤ time.seconds then .error (.time .seconds) else .ok time

def ofSeconds : Binary64 → Except Failure Timestamp
  | .nan _ => .error (.time .notNumber)
  | .infinite _ => .error (.time .seconds)
  | .finite negative significand exponent =>
      let whole : Int := (significand * 2 ^ exponent.toNat / 2 ^ (-exponent).toNat : Nat)
      let micros : Int := microsOf significand exponent
      checked (if negative then carried (-whole) (-micros) else carried whole micros)

def ofValue : Value → Except Failure Timestamp
  | .float number => ofSeconds number
  | value =>
      match value.whole? with
      | some whole => checked ⟨whole, 0⟩
      | none => .error (.use value.typeName .integer)

/-- A number in decimal with at least `width` digits. -/
def padded (width number : Nat) : String :=
  let digits := Nat.toDigits 10 number
  String.ofList (List.replicate (width - digits.length) '0' ++ digits)

/-- The years that a date can have. The number of any other is shown in 32 bits, which have to hold
the years since 1900. -/
def checkYear (year : Int) : Except Failure Nat :=
  if 1 ≤ year ∧ year ≤ 9999 then .ok year.toNat
  else if year - 1900 < -(2 ^ 31) ∨ 2 ^ 31 ≤ year - 1900 then .error (.time .calendar)
  else .error (.time (.year (Int.bmod year (2 ^ 32))))

/-- A time as date, hours, minutes, seconds and offset; microseconds are shown unless zero. -/
def text (time : Timestamp) : Except Failure String := do
  let date := CalendarDate.ofDay (Int.fdiv time.seconds 86400)
  let inDay := (Int.fmod time.seconds 86400).toNat
  let year ← checkYear date.year
  let places := if time.micros = 0 then "" else "." ++ padded 6 time.micros
  return padded 4 year ++ "-" ++ padded 2 date.month ++ "-" ++ padded 2 date.day ++ "T"
    ++ padded 2 (inDay / 3600) ++ ":" ++ padded 2 (inDay / 60 % 60) ++ ":" ++ padded 2 (inDay % 60)
    ++ places ++ "+00:00"

end Timestamp

end ShadowIndex
