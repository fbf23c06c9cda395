import Sntp.Proofs.Calendar.Dates

/-!
# Times and moments

A time in milliseconds has a valid moment (`Moment.isValid_ofMillis`), from which it is counted back
(`Moment.millis_ofMillis`). The moments of one second differ in the millisecond only (`Moment.ofMillis_second`). The times
in years of four digits are an interval of milliseconds (`Moment.hasFourDigitYear_iff`).
-/

set_option autoImplicit false

namespace Sntp

open Number

namespace Moment

/-- Whether a moment is on a valid date and its time of day within the day. -/
structure IsValid (m : Moment) : Prop where
  date_valid : m.date.IsValid
  hour_lt : m.hour < 24
  minute_lt : m.minute < 60
  second_lt : m.second < 60
  millisecond_lt : m.millisecond < 1000

/-- The moment of a time has a valid date, and a time of day within its bounds. -/
theorem isValid_ofMillis (ms : Int) : (ofMillis ms).IsValid := by
  have hday : (ms % dayLength).toNat < 86400000 := by
    unfold dayLength
    omega
  unfold ofMillis
  refine ⟨Date.isValid_ofDays _, ?_, ?_, ?_, ?_⟩
  all_goals
    simp only []
    omega

/-- A time is counted back from its moment. -/
theorem millis_ofMillis (ms : Int) : (ofMillis ms).millis = ms := by
  unfold millis ofMillis
  simp only [Date.days_ofDays]
  unfold dayLength
  omega

/-- The moments of a second are the moment that it begins with, but for the millisecond. -/
theorem ofMillis_second (ms : Int) : ofMillis (ms / 1000 * 1000) = { ofMillis ms with millisecond := 0 } := by
  have hday : ms / 1000 * 1000 / 86400000 = ms / 86400000 := by omega
  have hrest : (ms / 1000 * 1000 % 86400000).toNat = (ms % 86400000).toNat / 1000 * 1000 := by omega
  unfold ofMillis dayLength
  simp only [hday, hrest]
  congr 1
  all_goals omega

/-- The milliseconds of a moment are what is left of the time after the last full second. -/
theorem millisecond_ofMillis (ms : Int) : (ofMillis ms).millisecond = (ms % 1000).toNat := by
  unfold ofMillis dayLength
  simp only []
  omega

/-- A year of four digits, the first of them not zero. -/
def HasFourDigitYear (ms : Int) : Prop := 1000 ≤ (ofMillis ms).date.year ∧ (ofMillis ms).date.year ≤ 9999

/-- The years of four digits are those from 1000-01-01T00:00:00.000Z to 9999-12-31T23:59:59.999Z. -/
theorem hasFourDigitYear_iff (ms : Int) : HasFourDigitYear ms ↔ -30610224000000 ≤ ms ∧ ms ≤ 253402300799999 := by
  have hfirst : (Date.mk 1000 1 1).days = -354285 := by decide +kernel
  have hlast : (Date.mk 10000 1 1).days = 2932897 := by decide +kernel
  have hlow := Date.le_year_ofDays_iff 1000 (ms / dayLength)
  have hhigh := Date.year_ofDays_lt_iff (ms / dayLength) 10000
  rw [hfirst] at hlow
  rw [hlast] at hhigh
  show 1000 ≤ (Date.ofDays (ms / dayLength)).year ∧ (Date.ofDays (ms / dayLength)).year ≤ 9999 ↔ _
  unfold dayLength at *
  omega

/-- A time within a hundred million days has its moment. -/
theorem ofNumber?_ofInt {ms : Int} (hms : ms.natAbs ≤ 8640000000000000) : ofNumber? (ofInt ms) = some (ofMillis ms) := by
  have habs : (ms : Rat).abs ≤ (limit : Rat) := by
    have hnat : (ms : Rat).abs = ((ms.natAbs : Int) : Rat) := finite.inj (abs_ofInt ms)
    rw [hnat, Rat.intCast_le_intCast]
    unfold limit
    omega
  have hwhole : wholePart (ms : Rat) = ms := Int.tdiv_one ms
  show (if (ms : Rat).abs ≤ limit then some (ofMillis (wholePart ms)) else none) = _
  rw [if_pos habs, hwhole]

end Moment

end Sntp
