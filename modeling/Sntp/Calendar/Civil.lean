/-!
# The civil calendar

Days are counted from 1970-01-01 in both directions and named in the proleptic Gregorian calendar,
with an astronomical year 0. `Date.ofDays` names a day and `Date.days` counts it; leap days end the
years of the count, which are taken to start in March.
-/

set_option autoImplicit false

namespace Sntp

/-- A day of the proleptic Gregorian calendar. -/
structure Date where
  year : Int
  /-- January is 1. -/
  month : Nat
  day : Nat
  deriving DecidableEq, Repr, Inhabited

namespace Date

/-- The day of the Gregorian calendar that lies a number of days after 1970-01-01. Eras of 400 years
have 146097 days. -/
def ofDays (days : Int) : Date :=
  let shifted := days + 719468
  let era := shifted / 146097
  let dayOfEra := (shifted % 146097).toNat
  let yearOfEra := (dayOfEra - dayOfEra / 1460 + dayOfEra / 36524 - dayOfEra / 146096) / 365
  let dayOfYear := dayOfEra - (365 * yearOfEra + yearOfEra / 4 - yearOfEra / 100)
  let monthFromMarch := (5 * dayOfYear + 2) / 153
  let day := dayOfYear - (153 * monthFromMarch + 2) / 5 + 1
  let month := if monthFromMarch < 10 then monthFromMarch + 3 else monthFromMarch - 9
  let year := (yearOfEra : Int) + 400 * era
  { year := if month ≤ 2 then year + 1 else year, month, day }

/-- The number of days from 1970-01-01 to a date. -/
def days (date : Date) : Int :=
  let year := if date.month ≤ 2 then date.year - 1 else date.year
  let era := year / 400
  let yearOfEra := (year % 400).toNat
  let monthFromMarch := if date.month ≤ 2 then date.month + 9 else date.month - 3
  let dayOfYear := (153 * monthFromMarch + 2) / 5 + (date.day - 1)
  let dayOfEra := 365 * yearOfEra + yearOfEra / 4 - yearOfEra / 100 + dayOfYear
  146097 * era + dayOfEra - 719468

/-- Whether a year has a leap day. -/
def isLeapYear (year : Int) : Bool := year % 4 = 0 ∧ (year % 100 ≠ 0 ∨ year % 400 = 0)

/-- The number of days of a month. -/
def daysInMonth (year : Int) (month : Nat) : Nat :=
  if month = 2 then (if isLeapYear year then 29 else 28)
  else if month = 4 ∨ month = 6 ∨ month = 9 ∨ month = 11 then 30
  else 31

/-- Whether a date names a day of the calendar. -/
def IsValid (date : Date) : Prop :=
  1 ≤ date.month ∧ date.month ≤ 12 ∧ 1 ≤ date.day ∧ date.day ≤ daysInMonth date.year date.month

/-- The month and the day are compared with their bounds. -/
instance (date : Date) : Decidable date.IsValid := by unfold IsValid; infer_instance

end Date

end Sntp
