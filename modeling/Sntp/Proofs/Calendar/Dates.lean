import Sntp.Proofs.Calendar.Years

/-!
# Days and dates

The day of a year that begins in March has a month and a day of the month (`Date.ofMarchYear`), from which it is counted
back (`Date.days_ofMarchYear`), and these name a day of the calendar (`Date.isValid_ofMarchYear`): the year has a last day
of February to spare only if it ends in a leap year. So every day is counted back from its date (`Date.days_ofDays`), and
the date is a valid one (`Date.isValid_ofDays`).
-/

set_option autoImplicit false

namespace Sntp

namespace Date

section MarchYears

variable {era : Int} {year dayOfYear : Nat}

/-- A day is counted back from its date. -/
theorem days_ofMarchYear (era : Int) (hyear : year < 400) (hday : dayOfYear ≤ 365) :
    (ofMarchYear (400 * era + year) dayOfYear).days = 146097 * era + daysBefore year + dayOfYear - 719468 := by
  have hmonth : (5 * dayOfYear + 2) / 153 ≤ 11 := by omega
  have hbefore : (153 * ((5 * dayOfYear + 2) / 153) + 2) / 5 ≤ dayOfYear := by omega
  unfold ofMarchYear days
  simp only [daysBefore_eq]
  generalize (5 * dayOfYear + 2) / 153 = month at *
  by_cases hmarch : month < 10
  · have hlate : ¬ month + 3 ≤ 2 := by omega
    have hera : (400 * era + year) / 400 = era := by omega
    have hyearOfEra : ((400 * era + year) % 400).toNat = year := by omega
    simp only [if_pos hmarch, if_neg hlate, hera, hyearOfEra, Nat.add_sub_cancel]
    omega
  · have hearly : month - 9 ≤ 2 := by omega
    have hera : (400 * era + year + 1 - 1) / 400 = era := by omega
    have hyearOfEra : ((400 * era + year + 1 - 1) % 400).toNat = year := by omega
    have hmonthBack : month - 9 + 9 = month := by omega
    simp only [if_neg hmarch, if_pos hearly, hera, hyearOfEra, hmonthBack, Nat.add_sub_cancel]
    omega

/-- A year that begins in March has a 366th day only if it ends in a leap year. -/
theorem isLeapYear_of_lastDay (era : Int) (hyear : year < 400)
    (hnext : year < 399 → daysBefore year + 365 < daysBefore (year + 1)) : isLeapYear (400 * era + year + 1) = true := by
  unfold isLeapYear
  rw [decide_eq_true_iff]
  obtain rfl | hwithin : year = 399 ∨ year < 399 := by omega
  · omega
  · have hlonger := hnext hwithin
    unfold daysBefore at hlonger
    omega

/-- The months from March to January have the lengths of the calendar, and February has the days that are left. -/
theorem isValid_ofMarchYear (marchYear : Int) (hday : dayOfYear ≤ 365)
    (hleap : dayOfYear = 365 → isLeapYear (marchYear + 1) = true) : (ofMarchYear marchYear dayOfYear).IsValid := by
  obtain ⟨month, hmonth, hlow, hhigh⟩ : ∃ month, (5 * dayOfYear + 2) / 153 = month ∧ 153 * month ≤ 5 * dayOfYear + 2 ∧
      5 * dayOfYear + 2 < 153 * (month + 1) := ⟨(5 * dayOfYear + 2) / 153, rfl, by omega, by omega⟩
  unfold IsValid ofMarchYear
  simp only [hmonth]
  by_cases hfebruary : month = 11
  · subst hfebruary
    by_cases hlast : dayOfYear = 365
    · simp [daysInMonth, hleap hlast]
      omega
    · simp [daysInMonth]
      split <;> omega
  · have hmonths : month = 0 ∨ month = 1 ∨ month = 2 ∨ month = 3 ∨ month = 4 ∨ month = 5 ∨ month = 6 ∨ month = 7 ∨
        month = 8 ∨ month = 9 ∨ month = 10 := by omega
    rcases hmonths with rfl | rfl | rfl | rfl | rfl | rfl | rfl | rfl | rfl | rfl | rfl
    all_goals
      simp [daysInMonth]
      omega

end MarchYears

/-- Every day is counted back from its date. -/
theorem days_ofDays (days : Int) : (ofDays days).days = days := by
  obtain ⟨era, year, dayOfYear, hdays, hyear, hle, -, -, hdate⟩ := exists_ofDays days
  rw [hdate, days_ofMarchYear era hyear hle]
  omega

/-- The date of a day is a valid one. -/
theorem isValid_ofDays (days : Int) : (ofDays days).IsValid := by
  obtain ⟨era, year, dayOfYear, -, hyear, hle, hnext, -, hdate⟩ := exists_ofDays days
  rw [hdate]
  apply isValid_ofMarchYear _ hle
  rintro rfl
  exact isLeapYear_of_lastDay era hyear hnext

example : (Date.mk 1970 1 1).days = 0 := by decide +kernel

end Date

end Sntp
