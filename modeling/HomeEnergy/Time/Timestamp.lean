import HomeEnergy.Time.Calendar
import HomeEnergy.Text.Numeral

/-!
Points in time in UTC, to the nanosecond, and their written form.

A leap second is the second before a full minute with a billion or more nanoseconds; it is
written as second 60.
-/

namespace HomeEnergy

/-- A point in time: the day counted from 1970-01-01, the second of that day, and the
nanoseconds, a billion more of them within a leap second. -/
structure Timestamp where
  day : Int
  second : Nat
  nanosecond : Nat
deriving DecidableEq, Inhabited, Repr

namespace Timestamp

def billion : Nat := 1000000000

def secondsPerDay : Nat := 86400

/-- The first and the last year that a time can lie in. -/
def firstYear : Int := -262143

def lastYear : Int := 262142

/-- Seconds from the start of 1970. -/
def seconds (t : Timestamp) : Int := t.day * secondsPerDay + t.second

def ofNanoseconds (n : Nat) : Timestamp :=
  let s := n / billion
  ⟨(s / secondsPerDay : Nat), s % secondsPerDay, n % billion⟩

/-- Whole seconds from one time to a later one, and the negative count to an earlier one. -/
def secondsSince (later earlier : Timestamp) : Int :=
  let nanoseconds (t : Timestamp) : Int := t.seconds * billion + t.nanosecond
  Int.tdiv (nanoseconds later - nanoseconds earlier) billion

/-- The time to the millisecond below. -/
def toMillisecond (t : Timestamp) : Timestamp :=
  { t with nanosecond := t.nanosecond / 1000000 * 1000000 }

/-- The year, with a sign where it has not four digits. -/
def yearText (year : Int) : List Char :=
  if 0 ≤ year ∧ year ≤ 9999 then Text.padded 4 year.toNat
  else (if year < 0 then '-' else '+') :: Text.padded 4 year.natAbs

/-- The fraction of a second, with no digits or three, six or nine, as few as hold it. -/
def fractionText (nanosecond : Nat) : List Char :=
  if nanosecond = 0 then []
  else if nanosecond % 1000000 = 0 then '.' :: Text.padded 3 (nanosecond / 1000000)
  else if nanosecond % 1000 = 0 then '.' :: Text.padded 6 (nanosecond / 1000)
  else '.' :: Text.padded 9 nanosecond

/-- The written form, as in `2024-05-01T10:00:00Z`. -/
def text (t : Timestamp) : String :=
  let (year, month, day) := Calendar.date t.day
  let leap := billion ≤ t.nanosecond
  let second := t.second % 60 + (if leap then 1 else 0)
  let nanosecond := if leap then t.nanosecond - billion else t.nanosecond
  String.ofList <|
    yearText year ++ '-' :: Text.padded 2 month ++ '-' :: Text.padded 2 day ++
      'T' :: Text.padded 2 (t.second / 3600) ++ ':' :: Text.padded 2 (t.second / 60 % 60) ++
      ':' :: Text.padded 2 second ++ fractionText nanosecond ++ ['Z']

end Timestamp

end HomeEnergy
