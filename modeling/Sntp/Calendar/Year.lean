import Sntp.Calendar.Moment

/-!
# The year of a time

Years are Gregorian, except that days before 1582-10-15 have the year of the Julian calendar, in
which every fourth year is a leap year and year 0 precedes year 1.

A time is taken to the nearest millisecond before its year is looked up. The calendar reaches as far
as milliseconds are counted exactly, which is farther than there are moments.
-/

set_option autoImplicit false

namespace Sntp

/-- The first day of the Gregorian calendar, 1582-10-15, counted from 1970-01-01. -/
def gregorianStart : Int := -141427

/-- The year of a day in the Julian calendar; four years have 1461 days. -/
def julianYear (days : Int) : Int := 4 * (days + 719530) / 1461

/-- The year of a day counted from 1970-01-01. -/
def yearOfDay (days : Int) : Int :=
  if days < gregorianStart then julianYear days else (Date.ofDays days).year

/-- The nearest millisecond to a time, a half going up, if its count from 1970-01-01 is exact. -/
def nearestMillis? : Number → Option Int
  | .finite q => (Number.ofInt (Number.nearestUp q)).safeInteger?
  | _ => none

/-- The UTC year of a time in milliseconds. A time that is not finite, or out of the reach of the
calendar, has none. -/
def utcYear? (ms : Number) : Option Int :=
  (nearestMillis? ms).map fun millis => yearOfDay (millis / Moment.dayLength)

end Sntp
