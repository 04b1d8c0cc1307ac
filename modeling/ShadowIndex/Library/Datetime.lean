import ShadowIndex.Number.Places
import ShadowIndex.Library.Numeral

/-!
Contract: dates and times, in writing and as counts, as the library for checks reads them.

Owns:
- `DateFault`, the first thing that keeps a text or a count from being a time;
- `Datetime.countFault?`: a count is one of seconds, or of milliseconds if it is large, and reaches
  from the year 1 to the year 9999;
- `Datetime.fault?`: a date is written with four, two and two digits and dashes between them; a
  time with an offset may stand behind it. A count will do as well.

Does not own: the time that a text or a count means.
-/

set_option autoImplicit false

namespace ShadowIndex.Text

inductive DateFault where
  | tooShort
  | yearDigit
  | separator
  | monthDigit
  | dayDigit
  | month
  | day
  | more
  | yearZero
  | early
  | late
  | notNumber
deriving DecidableEq, Repr

namespace DateFault

def message : DateFault → String
  | tooShort => "input is too short"
  | yearDigit => "invalid character in year"
  | separator => "invalid date separator, expected \x60-\x60"
  | monthDigit => "invalid character in month"
  | dayDigit => "invalid character in day"
  | month => "month value is outside expected range of 1-12"
  | day => "day value is outside expected range"
  | more => "unexpected extra characters at the end of the input"
  | yearZero => "year 0 is out of range"
  | early => "dates before 0000 are not supported as unix timestamps"
  | late => "dates after 9999 are not supported as unix timestamps"
  | notNumber => "NaN values not permitted"

end DateFault

namespace Datetime

/-- The number that the first characters of a text denote, if all of them are digits. -/
def number? (count : Nat) (text : List Char) : Option Nat :=
  let digits := text.take count
  if digits.length = count ∧ digits.all Char.isDigit then some (Binary64.digitsValue digits)
  else none

def readNumber (fault : DateFault) (count : Nat) (text : List Char) :
    Except DateFault (Nat × List Char) :=
  match number? count text with
  | some number => .ok (number, text.drop count)
  | none => .error fault

def readSeparator : List Char → Except DateFault (List Char)
  | '-' :: rest => .ok rest
  | _ => .error .separator

/-! ## Dates -/

def isLeap (year : Nat) : Bool := year % 4 = 0 && (year % 100 ≠ 0 || year % 400 = 0)

def daysIn (year month : Nat) : Nat :=
  if month = 2 then if isLeap year then 29 else 28
  else if [4, 6, 9, 11].contains month then 30
  else 31

def dateSize : Nat := 10

/-- Reads a date and gives its year and what follows it. Characters are looked at before ranges. -/
def readDate (text : List Char) : Except DateFault (Nat × List Char) := do
  if (String.ofList text).utf8ByteSize < dateSize then throw .tooShort
  let (year, rest) ← readNumber .yearDigit 4 text
  let rest ← readSeparator rest
  let (month, rest) ← readNumber .monthDigit 2 rest
  let rest ← readSeparator rest
  let (day, rest) ← readNumber .dayDigit 2 rest
  if month < 1 ∨ 12 < month then throw .month
  if day < 1 ∨ daysIn year month < day then throw .day
  return (year, rest)

/-! ## Times -/

/-- Hours and minutes, perhaps with a colon between them. -/
def isHourMinute (text : List Char) : Bool :=
  match number? 2 text, text.drop 2 with
  | some hour, ':' :: rest => hour < 24 && (number? 2 rest).any (· < 60) && rest.length = 2
  | some hour, rest => hour < 24 && (number? 2 rest).any (· < 60) && rest.length = 2
  | none, _ => false

def minusSign : Char := '\u2212'

def isOffset : List Char → Bool
  | [] => true
  | mark :: rest =>
      if mark = '+' ∨ mark = '-' ∨ mark = minusSign then isHourMinute rest
      else (mark = 'Z' ∨ mark = 'z') ∧ rest = []

/-- Places of a second behind a point or a comma, or none, and an offset. -/
def isPlaces : List Char → Bool
  | [] => true
  | mark :: rest =>
      if mark = '.' ∨ mark = ',' then
        rest.head?.any Char.isDigit && isOffset (rest.dropWhile Char.isDigit)
      else isOffset (mark :: rest)

/-- Seconds, or none, and what may stand behind them. -/
def isSeconds : List Char → Bool
  | ':' :: rest => (number? 2 rest).any (· < 60) && isPlaces (rest.drop 2)
  | text => isOffset text

/-- A time of the day behind the mark that separates it from a date. -/
def isTime : List Char → Bool
  | mark :: rest =>
      ['T', 't', ' ', '_'].contains mark && isHourMinute (rest.take 5) && rest[2]? = some ':'
        && isSeconds (rest.drop 5)
  | [] => false

/-! ## Counts -/

/-- The greatest count of seconds; a greater one counts milliseconds. -/
def secondsLimit : Nat := 20000000000

/-- The first seconds of the years 0, 1 and 10000. -/
def yearZeroStart : Int := -62167219200

def yearOneStart : Int := -62135596800

def yearsEnd : Int := 253402300800

/-- What keeps a count of seconds or milliseconds from being a time. -/
def countFault? (count : Int) : Option DateFault :=
  let seconds := if secondsLimit < count.natAbs then Int.fdiv count 1000 else count
  if seconds < yearZeroStart then some .early
  else if yearsEnd ≤ seconds then some .late
  else if seconds < yearOneStart then some .yearZero
  else none

/-- What keeps a datum from being a count that is a time. -/
def datumFault? : Binary64 → Option DateFault
  | .nan _ => some .notNumber
  | .infinite negative => some (if negative then .early else .late)
  | number => countFault? ((number.floor?).getD 0)

/-- A count in writing: an integer of 64 bits, or a decimal number with a point. -/
inductive Count where
  | whole (count : Int)
  | decimal (number : Binary64)

def count? (text : List Char) : Option Count :=
  let (negative, digits) := Binary64.splitSign text
  if digits.isEmpty then none
  else if digits.all Char.isDigit then
    let size : Int := Binary64.digitsValue digits
    let count := if negative then -size else size
    if -(2 ^ 63) ≤ count ∧ count < 2 ^ 63 then some (.whole count) else none
  else if digits.contains '.' && digits.head?.any fun c => c.isDigit || c == '.' then
    (Binary64.read? (String.ofList text)).map Count.decimal
  else none

/-! ## Times in writing or as counts -/

/-- What keeps a text from being a date or a date with a time. -/
def writtenFault? (text : List Char) : Option DateFault :=
  match readDate text with
  | .error fault => some fault
  | .ok (year, rest) =>
      if rest = [] ∨ isTime rest then if year = 0 then some .yearZero else none else some .more

/-- What keeps a text from being a date, a date with a time, or a count. A decimal count out of
range is judged as a date. -/
def fault? (text : String) : Option DateFault :=
  match count? text.toList with
  | some (.whole count) => countFault? count
  | some (.decimal number) =>
      match datumFault? number with
      | none => none
      | some .yearZero => some .yearZero
      | some _ => writtenFault? text.toList
  | none => writtenFault? text.toList

example : fault? "2024-02-29T04:05:06.5+00:00" = none := by decide +kernel
example : fault? "2023-02-29" = some .day := by decide +kernel
example : fault? "2024-02-03T24:00" = some .more := by decide +kernel

end Datetime

end ShadowIndex.Text
