import AuthGate.Time.Instant
import AuthGate.Text.Decimal

namespace AuthGate

/-- A day of the proleptic Gregorian calendar. Months and days count from one. -/
structure Date where
  year : Int
  month : Nat
  day : Nat
deriving DecidableEq

namespace Date

/-- Every fourth year is a leap year, except every hundredth, except every
four hundredth. -/
def isLeapYear (year : Int) : Bool :=
  year % 4 = 0 && (year % 100 ≠ 0 || year % 400 = 0)

/-- The lengths of the months of a year. -/
def monthLengths (leap : Bool) : List Nat :=
  [31, if leap then 29 else 28, 31, 30, 31, 30, 31, 31, 30, 31, 30, 31]

/-- The length of one month, zero for a month that no year has. -/
def monthLength (year : Int) (month : Nat) : Nat :=
  if month = 0 then 0 else (monthLengths (isLeapYear year)).getD (month - 1) 0

/-- The days from the first day of year zero to the first day of `year`. -/
def daysBeforeYear (year : Int) : Int :=
  365 * year + ((year - 1) / 4 - (year - 1) / 100 + (year - 1) / 400 + 1)

/-- The days from the first day of year zero to 1970-01-01. -/
def unixEpochDay : Int := 719528

/-- The year that a day of the count from year zero falls into. The average
length of a year gives it up to one, which the exact bounds then settle. -/
def yearOfDay (n : Int) : Int :=
  let guess := n * 400 / 146097
  if n < daysBeforeYear guess then guess - 1
  else if daysBeforeYear (guess + 1) ≤ n then guess + 1
  else guess

/-- The month and day that lie `n` days past the first day of the first listed
month, whose number is `month`. -/
def locate (month : Nat) : List Nat → Nat → Nat × Nat
  | [], n => (month, n + 1)
  | length :: rest, n => if n < length then (month, n + 1) else locate (month + 1) rest (n - length)

/-- The date of a count of days after 1970-01-01. -/
def ofUnixDay (n : Int) : Date :=
  let day := n + unixEpochDay
  let year := yearOfDay day
  let (month, dayOfMonth) :=
    locate 1 (monthLengths (isLeapYear year)) (day - daysBeforeYear year).toNat
  ⟨year, month, dayOfMonth⟩

/-- The days from 1970-01-01 to a date. -/
def toUnixDay (d : Date) : Int :=
  let before := (monthLengths (isLeapYear d.year)).take (d.month - 1)
  daysBeforeYear d.year - unixEpochDay + (before.foldl (· + ·) 0 + (d.day - 1) : Nat)

/-- Whether the calendar has the date. -/
def isValid (d : Date) : Bool :=
  1 ≤ d.month && d.month ≤ 12 && 1 ≤ d.day && d.day ≤ monthLength d.year d.month

/-- A date as year, month and day with hyphens. The year has four digits and,
before year zero, a sign in front of them. -/
def render (d : Date) : List Char :=
  (if d.year < 0 then ['-'] else []) ++ Decimal.padded 4 d.year.natAbs
    ++ '-' :: Decimal.padded 2 d.month ++ '-' :: Decimal.padded 2 d.day

end Date

namespace Instant

/-- The UTC date of an instant. -/
def date (t : Instant) : Date := Date.ofUnixDay (t.unixSeconds / 86400)

/-- The seconds of an instant since the start of its UTC day. -/
def secondOfDay (t : Instant) : Nat := (t.unixSeconds % 86400).toNat

/-- An instant for people: date, time of day and offset with blanks between.
The hour has no leading zero, and the fraction has no trailing zeros but at
least one digit. -/
def render (t : Instant) : String :=
  let second := t.secondOfDay
  let fraction := match Decimal.fraction 9 t.subsecNanos with
    | [] => ['0']
    | ds => ds
  String.ofList (t.date.render ++ ' ' :: Decimal.digits (second / 3600)
    ++ ':' :: Decimal.padded 2 (second / 60 % 60) ++ ':' :: Decimal.padded 2 (second % 60)
    ++ '.' :: fraction) ++ " +00:00:00"

end Instant

end AuthGate
