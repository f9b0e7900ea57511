import QueryBook.Number.Decimal

/-!
# Timestamps

The date and the time of day of a Unix time, in Coordinated Universal Time and the Gregorian
calendar. A time is counted in 64 bits and a year in 32; other times have no text. Days are
counted from the first of March of the year 0, so that the leap day is the last day of its year
and the lengths of the months before it do not depend on the year.
-/

namespace QueryBook.Timestamp

/-- A day of the calendar. -/
structure Date where
  year : Int
  month : Nat
  day : Nat
  deriving DecidableEq, Repr

/-- The days from the first of March of the year 0 to the first of January 1970. -/
def epoch : Int := 719468

/-- The days of four hundred years. -/
def daysPerEra : Int := 146097

/-- The year within its era that a day of the era belongs to. -/
def yearOfEra (day : Nat) : Nat :=
  (day - day / 1460 + day / 36524 - day / 146096) / 365

/-- The date of a day counted from the first of January 1970. -/
def date (day : Int) : Date :=
  let shifted := day + epoch
  let era := Int.fdiv shifted daysPerEra
  let dayOfEra := (Int.fmod shifted daysPerEra).toNat
  let year := yearOfEra dayOfEra
  let dayOfYear := dayOfEra - (365 * year + year / 4 - year / 100)
  let month := (5 * dayOfYear + 2) / 153
  let next := month ≥ 10
  { year := era * 400 + year + (if next then 1 else 0)
    month := if next then month - 9 else month + 3
    day := dayOfYear - (153 * month + 2) / 5 + 1 }

/-- A number with at least two digits. -/
def twoDigits (n : Nat) : List Char :=
  if n < 10 then '0' :: Decimal.digits n else Decimal.digits n

/-- The date and the time of day of a Unix time. -/
def text (seconds : Int) : String :=
  let d := date (Int.fdiv seconds 86400)
  let time := (Int.fmod seconds 86400).toNat
  String.ofList (Decimal.sign (d.year < 0) ++ Decimal.digits d.year.natAbs ++
    '-' :: twoDigits d.month ++ '-' :: twoDigits d.day ++
    ' ' :: twoDigits (time / 3600) ++ ':' :: twoDigits (time / 60 % 60) ++
    ':' :: twoDigits (time % 60))

/-- Why a time has no text. -/
inductive Fault where
  /-- The seconds cannot be counted. -/
  | beyondClock
  /-- The year cannot be counted. -/
  | beyondCalendar
  deriving DecidableEq, Repr

/-- The wording of a fault. -/
def Fault.message : Fault → String
  | beyondClock => "timestamp out of range for platform time_t"
  | beyondCalendar => "[Errno 75] Value too large for defined data type"

/-- Whether a number can be counted in so many bits, of which one is the sign. -/
def fits (bits : Nat) (n : Int) : Bool :=
  let half : Int := Decimal.power 2 (bits - 1)
  n < half && -half ≤ n

/-- The date and the time of day of a Unix time that can be counted; years are counted from
1900. -/
def text? (seconds : Int) : Except Fault String :=
  if !fits 64 seconds then .error .beyondClock
  else if !fits 32 ((date (Int.fdiv seconds 86400)).year - 1900) then .error .beyondCalendar
  else .ok (text seconds)

example : text 0 = "1970-01-01 00:00:00" := by decide +kernel
example : text 951782399 = "2000-02-28 23:59:59" := by decide +kernel
example : text 951782400 = "2000-02-29 00:00:00" := by decide +kernel
example : text 1700000000 = "2023-11-14 22:13:20" := by decide +kernel

end QueryBook.Timestamp
