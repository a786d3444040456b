import ConfigGate.Decimal.Binary64

/-! Times of the file system as dates. A time is kept in nanoseconds and passes through a binary
number of seconds before it is shown in microseconds, so the last digits are those of that number. -/
namespace ConfigGate.Time

/-- The fraction `num / den` rounded to a binary number, as a fraction again. -/
def roundToBinary (num : Int) (den : Nat) : Int × Nat :=
  match Decimal.Binary64.ofFraction (num < 0) num.natAbs den with
  | .finite negative mantissa exponent =>
    let scaled : Nat := mantissa * Nat.pow 2 exponent.toNat
    (if negative then -(scaled : Int) else scaled, Nat.pow 2 (-exponent).toNat)
  | _ => (0, 1)

/-- A thousand-millionth as a binary number. -/
def nano : Int × Nat := roundToBinary 1 1000000000

/-- A time in nanoseconds as a binary number of seconds. The parts of a second are scaled and
rounded first, and then added. -/
def seconds (nanoseconds : Int) : Int × Nat :=
  let whole := nanoseconds / 1000000000
  let (partNum, partDen) := roundToBinary (nanoseconds % 1000000000 * nano.1) nano.2
  roundToBinary (whole * partDen + partNum) partDen

/-- The quotient rounded to the nearest integer, where a half goes to the even neighbour. -/
def roundSigned (num : Int) (den : Nat) : Int :=
  let rounded : Int := Decimal.roundHalfEven num.natAbs den
  if num < 0 then -rounded else rounded

/-- A time in nanoseconds as microseconds. -/
def microseconds (nanoseconds : Int) : Int :=
  let (num, den) := seconds nanoseconds
  let whole := num.tdiv den
  let (partNum, partDen) := roundToBinary (num.tmod den * 1000000) den
  whole * 1000000 + roundSigned partNum partDen

/-- The year, month and day of a day, counted from the first day of 1970. The count starts with
March, so that the day that a leap year has more is the last one of its year; four centuries have
146097 days. -/
def civil (day : Int) : Int × Nat × Nat :=
  let shifted := day + 719468
  let era := shifted / 146097
  let dayOfEra := (shifted % 146097).toNat
  let yearOfEra := (dayOfEra - dayOfEra / 1460 + dayOfEra / 36524 - dayOfEra / 146096) / 365
  let dayOfYear := dayOfEra - (365 * yearOfEra + yearOfEra / 4 - yearOfEra / 100)
  let month := (5 * dayOfYear + 2) / 153
  let dayOfMonth := dayOfYear - (153 * month + 2) / 5 + 1
  let civilMonth := if month < 10 then month + 3 else month - 9
  let year := era * 400 + yearOfEra
  (if civilMonth ≤ 2 then year + 1 else year, civilMonth, dayOfMonth)

/-- What keeps a time from being a date. -/
inductive Fault where
  /-- Its seconds have no room in the clock of the system. -/
  | clock
  /-- Its year has no room in the calendar of the system. -/
  | calendar
  /-- Its year is not one that dates have. -/
  | year (n : Int)
deriving DecidableEq, Repr

namespace Fault

/-- The fault in words. -/
def message : Fault → String
  | .clock => "timestamp out of range for platform time_t"
  | .calendar => "[Errno 75] Value too large for defined data type"
  | .year n => "year " ++ toString n ++ " is out of range"

/-- The family of errors that the fault belongs to. -/
def family : Fault → String
  | .clock => "OverflowError"
  | .calendar => "OSError"
  | .year _ => "ValueError"

end Fault

/-- What keeps a time in microseconds from being a date in UTC. Dates have the years from 1 to 9999, the
calendar counts years from 1900 in 32 bits, and the clock counts seconds in 64. -/
def fault? (microseconds : Int) : Option Fault :=
  let second := microseconds / 1000000
  let year := (civil (second / 86400)).1
  if second < -0x8000000000000000 || 0x8000000000000000 ≤ second then some .clock
  else if year - 1900 < -0x80000000 || 0x80000000 ≤ year - 1900 then some .calendar
  else if year < 1 || 9999 < year then some (.year year)
  else none

/-- A number in decimal digits, with leading zeros up to the given width. -/
def padded (width n : Nat) : String :=
  let digits := Nat.toDigits 10 n
  String.ofList (List.replicate (width - digits.length) '0' ++ digits)

/-- A time in microseconds as a date and time of day in UTC. Six digits of the second are shown
unless all are zero. -/
def text (microseconds : Int) : String :=
  let day := microseconds / 86400000000
  let rest := (microseconds % 86400000000).toNat
  let (year, month, dayOfMonth) := civil day
  let second := rest / 1000000
  let fraction := rest % 1000000
  padded 4 year.toNat ++ "-" ++ padded 2 month ++ "-" ++ padded 2 dayOfMonth ++ "T" ++
    padded 2 (second / 3600) ++ ":" ++ padded 2 (second / 60 % 60) ++ ":" ++
    padded 2 (second % 60) ++ (if fraction = 0 then "" else "." ++ padded 6 fraction) ++ "Z"

end ConfigGate.Time
