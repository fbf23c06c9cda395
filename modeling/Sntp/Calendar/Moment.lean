import Sntp.Calendar.Civil
import Sntp.Number.Decimal

/-!
# Moments and their text

A moment is a UTC date with the time of day in milliseconds. Times are counted in milliseconds from
1970-01-01; a time that is no number, or more than a hundred million days from there, names no
moment.

Two texts are written: `Moment.stamp`, the head of a log line, and `Moment.iso`, the form in which
times are announced.
-/

set_option autoImplicit false

namespace Sntp

/-- A UTC date and time of day. -/
structure Moment where
  date : Date
  hour : Nat
  minute : Nat
  second : Nat
  millisecond : Nat
  deriving DecidableEq, Repr, Inhabited

namespace Moment

/-- The milliseconds of a day. -/
def dayLength : Int := 86400000

/-- The moment a number of milliseconds after 1970-01-01. -/
def ofMillis (ms : Int) : Moment :=
  let rest := (ms % dayLength).toNat
  { date := Date.ofDays (ms / dayLength)
    hour := rest / 3600000
    minute := rest / 60000 % 60
    second := rest / 1000 % 60
    millisecond := rest % 1000 }

/-- The milliseconds from 1970-01-01 to a moment. -/
def millis (m : Moment) : Int :=
  dayLength * m.date.days + (3600000 * m.hour + 60000 * m.minute + 1000 * m.second + m.millisecond : Nat)

/-- The largest distance from 1970-01-01, in milliseconds, at which there are moments. -/
def limit : Int := 8640000000000000

/-- The moment of a time in milliseconds, its fraction dropped toward zero. -/
def ofNumber? : Number → Option Moment
  | .finite q => if q.abs ≤ limit then some (ofMillis (Number.wholePart q)) else none
  | _ => none

/-- A field of a moment in at least two digits; the field of no moment is undefined. -/
def fieldText (moment : Option Moment) (field : Moment → Nat) : List Char :=
  match moment with
  | some m => Number.padZero 2 (field m)
  | none => "NaN".toList

/-- The year of a moment, unpadded. -/
def yearText (moment : Option Moment) : List Char :=
  match moment with
  | some m => Number.integerChars m.date.year
  | none => "NaN".toList

/-- The date and time of day to the second, as `Y-MM-DD hh:mm:ss`. -/
def stamp (moment : Option Moment) : String :=
  let field := fieldText moment
  String.ofList (yearText moment ++ '-' :: field (·.date.month) ++ '-' :: field (·.date.day) ++ ' ' :: field (·.hour)
    ++ ':' :: field (·.minute) ++ ':' :: field (·.second))

/-- A year of four digits, or, outside of 0 to 9999, a sign and six digits. -/
def isoYear (year : Int) : List Char :=
  if 0 ≤ year ∧ year ≤ 9999 then Number.padZero 4 year.toNat
  else (if year < 0 then '-' else '+') :: Number.padZero 6 year.natAbs

/-- A moment to the millisecond, as `YYYY-MM-DDThh:mm:ss.sssZ`. -/
def iso (m : Moment) : String :=
  let two := Number.padZero 2
  String.ofList (isoYear m.date.year ++ '-' :: two m.date.month ++ '-' :: two m.date.day ++ 'T' :: two m.hour
    ++ ':' :: two m.minute ++ ':' :: two m.second ++ '.' :: Number.padZero 3 m.millisecond ++ ['Z'])

end Moment

/-- The head of a log line written at a time. -/
def timeStamp (ms : Number) : String := Moment.stamp (Moment.ofNumber? ms)

/-- The announced form of a time, if the time names a moment. -/
def isoTime? (ms : Number) : Option String := (Moment.ofNumber? ms).map Moment.iso

end Sntp
