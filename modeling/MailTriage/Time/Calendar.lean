/-! # The civil calendar

Days are numbered from 1970-01-01, which is day 0, in the Gregorian calendar extended to all years.
`dayNumber` counts the days before a date, and `dateOfDay` finds the date of a day: first the year,
by an estimate that is at most one year off and is then put right, then the month by walking through
the lengths of the months.
-/
namespace MailTriage.Calendar

-- Sums start from the zero of the numbers themselves, also where every monoid has its own.
attribute [local instance (10001)] Zero.ofOfNat0

/-- A date of the civil calendar. -/
structure Date where
  year : Int
  month : Nat
  day : Nat
deriving DecidableEq, Repr

/-- Whether a year has a 29th of February. -/
def isLeapYear (year : Int) : Bool :=
  year % 4 == 0 && (year % 100 != 0 || year % 400 == 0)

/-- The lengths of the months from January on. -/
def monthLengths (year : Int) : List Nat :=
  [31, if isLeapYear year then 29 else 28, 31, 30, 31, 30, 31, 31, 30, 31, 30, 31]

/-- How many days lie between 0001-01-01 and the first day of a year. -/
def daysBeforeYear (year : Int) : Int :=
  365 * (year - 1) + (year - 1) / 4 - (year - 1) / 100 + (year - 1) / 400

/-- The number of 1970-01-01 when days are counted from 0001-01-01. -/
def epochOffset : Int := 719162

/-- Whether the month exists and has such a day. -/
def Date.isValid (date : Date) : Bool :=
  match date.month with
  | 0 => false
  | m + 1 => match (monthLengths date.year)[m]? with
    | none => false
    | some length => 1 ≤ date.day && date.day ≤ length

/-- The number of a date's day, counted from 1970-01-01. -/
def dayNumber (date : Date) : Int :=
  daysBeforeYear date.year + ((monthLengths date.year).take (date.month - 1)).sum
    + (date.day - 1) - epochOffset

/-- The year that holds a day counted from 0001-01-01. -/
def yearOfDay (n : Int) : Int :=
  let guess := n * 400 / 146097 + 1
  if n < daysBeforeYear guess then guess - 1
  else if daysBeforeYear (guess + 1) ≤ n then guess + 1
  else guess

/-- The month and the day of the month of a day of the year, both counted from one, given the
lengths of the months still to come and the number of the first of them. -/
def monthOfDay : List Nat → Nat → Nat → Nat × Nat
  | [], month, day => (month, day + 1)
  | length :: rest, month, day =>
    if day < length then (month, day + 1) else monthOfDay rest (month + 1) (day - length)

/-- The date of a day counted from 1970-01-01. -/
def dateOfDay (day : Int) : Date :=
  let n := day + epochOffset
  let year := yearOfDay n
  let (month, dayOfMonth) := monthOfDay (monthLengths year) 1 (n - daysBeforeYear year).toNat
  { year, month, day := dayOfMonth }

example : dayNumber ⟨1970, 1, 1⟩ = 0 := by decide
example : dateOfDay 19782 = ⟨2024, 2, 29⟩ := by decide
example : dayNumber ⟨2024, 2, 29⟩ = 19782 := by decide
example : dateOfDay (-719529) = ⟨-1, 12, 31⟩ := by decide

end MailTriage.Calendar
