import Sntp.Calendar.Year
import Sntp.Proofs.Number.Integer

/-!
# Where years begin

In an era of 400 years, the first of them beginning in March, a year begins after `Date.daysBefore` days, and the year
of a day is the one that has begun last (`Date.exists_yearOfEra`). So a day is in a year or a later one exactly from
the first of January of that year on (`Date.le_year_ofDays_iff`), and a year is as long as its leap day makes it
(`Date.days_newYear_succ`). With the Julian years before them, the years in use follow each other without a gap
(`yearOfDay_eq_iff`). As the Julian days are all before 1583, the later years in use begin as the Gregorian ones do
(`le_yearOfDay_iff`), and a time is in a plausible year exactly within an interval of milliseconds
(`isPlausibleYear_iff`).
-/

set_option autoImplicit false

namespace Sntp

namespace Date

/-- The days of an era before one of its years, a leap day ending every fourth year except at the end of a century. -/
def daysBefore (year : Nat) : Nat := 365 * year + (24 * (year / 100) + year % 100 / 4)

/-- The days before a year of an era, with one more for every fourth year and one less for every century. -/
theorem daysBefore_eq (year : Nat) : 365 * year + year / 4 - year / 100 = daysBefore year := by
  have hquads : year / 4 = 25 * (year / 100) + year % 100 / 4 := by omega
  unfold daysBefore
  omega

/-- A later year begins at least 365 days later. -/
theorem daysBefore_add_le {year later : Nat} (h : year < later) : daysBefore year + 365 ≤ daysBefore later := by
  unfold daysBefore
  omega

/-- A later year begins on a later day. -/
theorem daysBefore_mono {year later : Nat} (h : year ≤ later) : daysBefore year ≤ daysBefore later := by
  obtain rfl | hlt := Nat.eq_or_lt_of_le h
  · exact Nat.le_refl _
  · exact Nat.le_of_add_right_le (daysBefore_add_le hlt)

/-- The last year of an era begins on its 145731st day, and with the months from March to December it is not over. -/
theorem daysBefore_le {year : Nat} (h : year < 400) : daysBefore year ≤ 145731 :=
  daysBefore_mono (Nat.le_of_lt_succ h)

/-- The days before a year that is counted by centuries, spans of four years and single years. -/
theorem daysBefore_split (century : Nat) {span single : Nat} (hspan : span < 25) (hsingle : single < 4) :
    daysBefore (100 * century + 4 * span + single) = 36524 * century + 1461 * span + 365 * single := by
  have hcentury : (100 * century + 4 * span + single) / 100 = century := by omega
  have hspans : (100 * century + 4 * span + single) % 100 / 4 = span := by omega
  unfold daysBefore
  rw [hcentury, hspans]
  omega

/-- The year of a day of an era is the last one that has begun. -/
theorem exists_yearOfEra {day : Nat} (hday : day < 146097) :
    ∃ year, (day - day / 1460 + day / 36524 - day / 146096) / 365 = year ∧ year < 400 ∧ daysBefore year ≤ day ∧
      day ≤ daysBefore year + 365 ∧ (year < 399 → day < daysBefore (year + 1)) := by
  -- The last day of an era is the one leap day at the end of a century.
  by_cases hlast : day = 146096
  · subst hlast
    exact ⟨399, by decide, by decide, by decide, by decide, by decide⟩
  obtain ⟨century, span, rest, rfl, hcentury, hspan, hrest, hlastSpan⟩ : ∃ century span rest,
      day = 36524 * century + (1461 * span + rest) ∧ century < 4 ∧ span < 25 ∧ rest < 1461 ∧ (span = 24 → rest < 1460) :=
    ⟨day / 36524, day % 36524 / 1461, day % 36524 % 1461, by omega, by omega, by omega, by omega, by omega⟩
  have hcenturies : (36524 * century + (1461 * span + rest)) / 36524 = century := by omega
  have hera : (36524 * century + (1461 * span + rest)) / 146096 = 0 := by omega
  -- The leap days so far, but for one that is taken for past late in the last year of a span.
  obtain ⟨early, hleaps, hearly, hlow, hhigh⟩ : ∃ early,
      (36524 * century + (1461 * span + rest)) / 1460 = 25 * century + span + early ∧ early < 2 ∧
        1460 * early ≤ 24 * century + span + rest ∧ 24 * century + span + rest < 1460 * early + 1460 :=
    ⟨(24 * century + span + rest) / 1460, by omega, by omega, by omega, by omega⟩
  obtain ⟨single, hsingle, hsingleLow, hsingleHigh⟩ : ∃ single,
      (36500 * century + 1460 * span + rest - early) / 365 = 100 * century + 4 * span + single ∧
        365 * single + early ≤ rest ∧ rest < 365 * single + 365 + early :=
    ⟨(rest - early) / 365, by omega, by omega, by omega⟩
  have hsingle4 : single < 4 := by omega
  have hwithin : 365 * single ≤ rest ∧ rest ≤ 365 * single + 365 := by omega
  have hbefore : single < 3 → rest < 365 * (single + 1) := by
    obtain rfl | rfl : early = 0 ∨ early = 1 := by omega
    all_goals omega
  refine ⟨100 * century + 4 * span + single, ?_, by omega, ?_, ?_, fun hnext => ?_⟩
  · rw [hleaps, hcenturies, hera, ← hsingle]
    congr 1
    omega
  · rw [daysBefore_split century hspan hsingle4]
    omega
  · rw [daysBefore_split century hspan hsingle4]
    omega
  · -- The next year is in the same span, in the next one, or in the next century.
    obtain hsame | ⟨rfl, hspan'⟩ | ⟨rfl, rfl⟩ :
        single < 3 ∨ (single = 3 ∧ span < 24) ∨ (single = 3 ∧ span = 24) := by omega
    all_goals clear hleaps hsingle hcenturies hera hlow hhigh hsingleLow hsingleHigh hwithin hday hlast hnext
    · have hyear : 100 * century + 4 * span + single + 1 = 100 * century + 4 * span + (single + 1) := rfl
      have hless := hbefore hsame
      rw [hyear, daysBefore_split century hspan (by omega)]
      omega
    · have hyear : 100 * century + 4 * span + 3 + 1 = 100 * century + 4 * (span + 1) + 0 := by omega
      rw [hyear, daysBefore_split century (by omega) (by omega)]
      omega
    · have hyear : 100 * century + 4 * 24 + 3 + 1 = 100 * (century + 1) + 4 * 0 + 0 := by omega
      have hless := hlastSpan rfl
      rw [hyear, daysBefore_split (century + 1) (by omega) (by omega)]
      omega

/-- The date of a day of a year that begins in March; the last two months are in the next civil year. -/
def ofMarchYear (year : Int) (dayOfYear : Nat) : Date :=
  let monthFromMarch := (5 * dayOfYear + 2) / 153
  { year := if monthFromMarch < 10 then year else year + 1
    month := if monthFromMarch < 10 then monthFromMarch + 3 else monthFromMarch - 9
    day := dayOfYear - (153 * monthFromMarch + 2) / 5 + 1 }

/-- A day lies in an era, in a year of the era and in that year, and its date is the one of its day in that year. -/
theorem exists_ofDays (days : Int) :
    ∃ (era : Int) (year dayOfYear : Nat), days + 719468 = 146097 * era + daysBefore year + dayOfYear ∧ year < 400 ∧
      dayOfYear ≤ 365 ∧ (year < 399 → daysBefore year + dayOfYear < daysBefore (year + 1)) ∧
      daysBefore year + dayOfYear < 146097 ∧ ofDays days = ofMarchYear (400 * era + year) dayOfYear := by
  have hera := Int.ediv_mul_add_emod (days + 719468) 146097
  have hlow := Int.emod_nonneg (days + 719468) (b := 146097) (by decide)
  have hhigh := Int.emod_lt_of_pos (days + 719468) (b := 146097) (by decide)
  have hwithin : ((days + 719468) % 146097).toNat < 146097 := by omega
  obtain ⟨year, hyear, hlt, hbegun, hend, hnext⟩ := exists_yearOfEra hwithin
  obtain ⟨dayOfYear, hday⟩ := Nat.exists_eq_add_of_le hbegun
  refine ⟨(days + 719468) / 146097, year, dayOfYear, by omega, hlt, by omega, fun h => ?_, by omega, ?_⟩
  · have := hnext h
    omega
  · unfold ofDays ofMarchYear
    simp only [hyear, daysBefore_eq]
    rw [hday, Nat.add_sub_cancel_left]
    congr 1
    split <;> split <;> omega

/-- The year of a day is that of the March before it, but for the last two months. -/
theorem exists_year_ofDays (days : Int) :
    ∃ (era : Int) (year dayOfYear : Nat), days + 719468 = 146097 * era + daysBefore year + dayOfYear ∧ year < 400 ∧
      dayOfYear ≤ 365 ∧ (year < 399 → daysBefore year + dayOfYear < daysBefore (year + 1)) ∧
      daysBefore year + dayOfYear < 146097 ∧ (ofDays days).year = 400 * era + year + if dayOfYear < 306 then 0 else 1 := by
  obtain ⟨era, year, dayOfYear, hdays, hlt, hle, hnext, hwhole, hdate⟩ := exists_ofDays days
  refine ⟨era, year, dayOfYear, hdays, hlt, hle, hnext, hwhole, ?_⟩
  rw [hdate]
  unfold ofMarchYear
  simp only []
  split <;> split <;> omega

/-- The first of January comes 306 days after the March before it. -/
theorem days_newYear (year : Int) :
    (Date.mk year 1 1).days = 146097 * ((year - 1) / 400) + daysBefore ((year - 1) % 400).toNat + 306 - 719468 := by
  unfold days
  simp only [daysBefore_eq, if_pos (show 1 ≤ 2 by decide)]
  omega

/-- A day is in a year or a later one exactly from the first of January of that year on. -/
theorem le_year_ofDays_iff (year days : Int) : year ≤ (ofDays days).year ↔ (Date.mk year 1 1).days ≤ days := by
  obtain ⟨era, marchYear, dayOfYear, hdays, hlt, hlast, hnext, hwhole, hyear⟩ := exists_year_ofDays days
  -- The first of January in question lies in the year that begins in the March before it.
  obtain ⟨era', marchYear', hsplit, hlt', hnewYear⟩ : ∃ (era' : Int) (marchYear' : Nat),
      year - 1 = 400 * era' + marchYear' ∧ marchYear' < 400 ∧
        (Date.mk year 1 1).days = 146097 * era' + daysBefore marchYear' + 306 - 719468 :=
    ⟨(year - 1) / 400, ((year - 1) % 400).toNat, by omega, by omega, days_newYear year⟩
  have hbound := daysBefore_le hlt'
  rw [hyear, hnewYear]
  obtain hera | hera | hera : era' < era ∨ era' = era ∨ era < era' := by omega
  · constructor <;> intro <;> omega
  · subst hera
    obtain hearlier | hsame | hlater : marchYear' < marchYear ∨ marchYear' = marchYear ∨ marchYear < marchYear' := by
      omega
    · have := daysBefore_add_le hearlier
      constructor <;> intro <;> omega
    · subst hsame
      by_cases hmarch : dayOfYear < 306 <;> simp only [hmarch, if_true, if_false] <;> omega
    · have := hnext (by omega)
      have hlater' : marchYear + 1 ≤ marchYear' := hlater
      have := daysBefore_mono hlater'
      constructor <;> intro <;> omega
  · constructor <;> intro <;> omega

/-- A leap year is a day longer than other years. -/
theorem days_newYear_succ (year : Int) :
    (Date.mk (year + 1) 1 1).days = (Date.mk year 1 1).days + if isLeapYear year then 366 else 365 := by
  obtain ⟨era, marchYear, hsplit, hlt⟩ : ∃ (era : Int) (marchYear : Nat), year - 1 = 400 * era + marchYear ∧ marchYear < 400 :=
    ⟨(year - 1) / 400, ((year - 1) % 400).toNat, by omega, by omega⟩
  have hleap : isLeapYear year = true ↔
      (marchYear + 1) % 4 = 0 ∧ ((marchYear + 1) % 100 ≠ 0 ∨ (marchYear + 1) % 400 = 0) := by
    unfold isLeapYear
    rw [decide_eq_true_iff]
    omega
  rw [days_newYear, days_newYear, show (year - 1) / 400 = era by omega, show ((year - 1) % 400).toNat = marchYear by omega]
  simp only [hleap]
  -- The year ends in the next era, in the next century or in the same one.
  obtain rfl | hwithin : marchYear = 399 ∨ marchYear < 399 := by omega
  · rw [show (year + 1 - 1) / 400 = era + 1 by omega, show ((year + 1 - 1) % 400).toNat = 0 by omega, if_pos (by decide)]
    unfold daysBefore
    omega
  · rw [show (year + 1 - 1) / 400 = era by omega, show ((year + 1 - 1) % 400).toNat = marchYear + 1 by omega]
    unfold daysBefore
    split <;> omega

/-- So a day is before a year exactly before the first of January of that year. -/
theorem year_ofDays_lt_iff (days year : Int) : (ofDays days).year < year ↔ days < (Date.mk year 1 1).days := by
  rw [← Int.not_le, ← Int.not_le, le_year_ofDays_iff]

end Date

/-- The Julian years in use end with 1582. -/
theorem julianYear_le {days : Int} (h : days < gregorianStart) : julianYear days ≤ 1582 := by
  unfold gregorianStart at h
  unfold julianYear
  omega

/-- From 1583 on a year in use begins on the first of January of the Gregorian calendar. -/
theorem le_yearOfDay_iff (year : Int) (hyear : 1582 < year) (days : Int) :
    year ≤ yearOfDay days ↔ (Date.mk year 1 1).days ≤ days := by
  unfold yearOfDay
  split
  case isFalse => exact Date.le_year_ofDays_iff year days
  case isTrue hjulian =>
    have hlast := julianYear_le hjulian
    have hearly : (Date.ofDays days).year < 1583 := by
      rw [Date.year_ofDays_lt_iff, show (Date.mk 1583 1 1).days = -141349 by decide +kernel]
      unfold gregorianStart at hjulian
      omega
    have hbefore : days < (Date.mk year 1 1).days := (Date.year_ofDays_lt_iff days year).mp (by omega)
    omega

/-- The day that a Julian year begins on. -/
def julianNewYear (year : Int) : Int := 365 * year + (year + 3) / 4 - 719530

/-- Whether a day lies in a year. Until 1582-10-15 every fourth year is a leap year, from then on the years are
Gregorian. -/
def LiesInYear (day year : Int) : Prop :=
  if day < gregorianStart then
    julianNewYear year ≤ day ∧ day < julianNewYear year + if year % 4 = 0 then 366 else 365
  else (Date.mk year 1 1).days ≤ day ∧ day < (Date.mk year 1 1).days + if Date.isLeapYear year then 366 else 365

/-- The Gregorian calendar goes on where the Julian one ends, with the day after its fourth of October. -/
example : (Date.mk 1582 10 15).days = gregorianStart ∧ gregorianStart = julianNewYear 1582 + 277 := by decide +kernel

/-- The Julian year of a day is the one between whose first and last day it falls. -/
theorem julianYear_eq_iff (day year : Int) :
    julianYear day = year ↔
      julianNewYear year ≤ day ∧ day < julianNewYear year + if year % 4 = 0 then 366 else 365 := by
  unfold julianYear julianNewYear
  split
  case isTrue => omega
  case isFalse hcommon =>
    have hbegun : year + 1 ≤ 4 * ((year + 3) / 4) := by omega
    omega

/-- The year of a day is the one year that the day lies in. -/
theorem yearOfDay_eq_iff (day year : Int) : yearOfDay day = year ↔ LiesInYear day year := by
  unfold yearOfDay LiesInYear
  split
  case isTrue => exact julianYear_eq_iff day year
  case isFalse =>
    have hbegun := Date.le_year_ofDays_iff year day
    have hover := Date.year_ofDays_lt_iff day (year + 1)
    rw [Date.days_newYear_succ] at hover
    omega

/-- An integer that is counted exactly is a time in the year of its day. -/
theorem utcYear?_ofInt {ms : Int} (hsafe : Number.IsSafe ms) :
    utcYear? (Number.ofInt ms) = some (yearOfDay (ms / Moment.dayLength)) := by
  have hnearest : nearestMillis? (Number.ofInt ms) = some ms := by
    show (Number.ofInt (Number.nearestUp ms)).safeInteger? = some ms
    rw [Number.nearestUp_intCast]
    exact (Number.safeInteger?_eq_some_iff _ _).mpr ⟨rfl, hsafe⟩
  unfold utcYear?
  rw [hnearest]
  rfl

end Sntp
