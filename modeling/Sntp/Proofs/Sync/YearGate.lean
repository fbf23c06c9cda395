import Sntp.Proofs.Clock.Gates
import Sntp.Proofs.Rehearsal.Course
import Sntp.Proofs.Sync.Failures

/-!
# Rejected years

An estimate that gets past the first two gates (`Estimate.IsUsable`) leads to the question for the year. The calendar is
behind it, but all there is to the answer is an interval of milliseconds: the decision is a rejection of the year exactly
for server times outside of it, and names the year that the time lies in (`make_implausibleYear_iff`). No later part of
the decision brings about such a rejection.
-/

set_option autoImplicit false

namespace Sntp

open Number

/-- Whether the first two gates let an estimate pass: its round trip is not out of range and its offset not small. -/
structure Estimate.IsUsable (estimate : Estimate) : Prop where
  trip_not_negative : estimate.rttMs.lt 0 = false
  trip_not_long : Number.lt 10000 estimate.rttMs = false
  offset_not_small : estimate.offsetMs.abs.lt 500 = false

namespace Estimate.IsUsable

variable {sample : Sample} {estimate : Estimate} {remote : Int}

/-- A usable estimate has a round trip that is trusted. -/
theorem passes_trip (h : estimate.IsUsable) :
    ¬ (estimate.rttMs.lt 0 = true ∨ (maxRoundTrip : Number).lt estimate.rttMs = true) := by
  rintro (hnegative | hlong)
  · cases h.trip_not_negative.symm.trans hnegative
  · cases h.trip_not_long.symm.trans hlong

/-- A usable estimate has an offset that is worth a change. -/
theorem passes_offset (h : estimate.IsUsable) : ¬ estimate.offsetMs.abs.lt minAdjustment = true := by
  intro hsmall
  cases h.offset_not_small.symm.trans hsmall

/-- A usable estimate whose server gives an implausible year is rejected for that year. -/
theorem assess_of_not_plausible (h : estimate.IsUsable) (hremote : sample.remoteMs = ofInt remote) (hsafe : IsSafe remote)
    (hyear : ¬ IsPlausibleYear (yearOfDay (remote / Moment.dayLength))) :
    assess sample estimate = .ok (.inl (.reject ⟨.implausibleYear (yearOfDay (remote / Moment.dayLength)), none⟩)) := by
  unfold assess
  rw [if_neg h.passes_trip, if_neg h.passes_offset, hremote, utcYear_ofInt hsafe]
  exact if_neg hyear

/-- In a plausible year the gates make no decision, and all that is left is the checked sum for the time to set. -/
theorem assess_ne_inl (h : estimate.IsUsable) (hremote : sample.remoteMs = ofInt remote) (hsafe : IsSafe remote)
    (hyear : IsPlausibleYear (yearOfDay (remote / Moment.dayLength))) (decision : Decision) :
    assess sample estimate ≠ .ok (.inl decision) := by
  unfold assess
  rw [if_neg h.passes_trip, if_neg h.passes_offset, hremote, utcYear_ofInt hsafe]
  simp only [if_pos hyear]
  split <;> simp

end Estimate.IsUsable

section Decisions

variable {σ : Type}

/-- A time that the gates leave is not rejected for its year. -/
theorem Decision.Follows.ne_implausibleYear {decision : Decision} {timeMs : Int} (h : decision.Follows timeMs) (year : Int)
    (cause : Option Failure) : decision ≠ .reject ⟨.implausibleYear year, cause⟩ := by
  cases h <;> simp

/-- A usable estimate leads to the rejection of a year exactly if the year is not plausible, and it is that year. -/
theorem make_eq_implausibleYear_iff (world : World σ) {sample : Sample} {estimate : Estimate} {remote : Int}
    (husable : estimate.IsUsable) (hremote : sample.remoteMs = ofInt remote) (hsafe : IsSafe remote) (testOnly : Bool)
    (method : String) (state : σ) (year : Int) (cause : Option Failure) :
    (Task.perform world (Decision.make sample estimate testOnly method) state).1 =
        some (.ok (.reject ⟨.implausibleYear year, cause⟩)) ↔
      ¬ IsPlausibleYear year ∧ year = yearOfDay (remote / Moment.dayLength) ∧ cause = none := by
  by_cases hinside : IsPlausibleYear (yearOfDay (remote / Moment.dayLength))
  · refine iff_of_false (fun hrejected => ?_) fun ⟨hnot, hyear, _⟩ => hnot (hyear ▸ hinside)
    rcases gates_or_follows hrejected with hassess | ⟨timeMs, -, hfollows⟩
    · exact husable.assess_ne_inl hremote hsafe hinside _ hassess
    · exact hfollows.ne_implausibleYear year cause rfl
  · rw [perform_make, husable.assess_of_not_plausible hremote hsafe hinside]
    constructor
    · intro hrejected
      cases hrejected
      exact ⟨hinside, rfl, rfl⟩
    · rintro ⟨-, rfl, rfl⟩
      rfl

/-- Of usable estimates, those with a server time before 2025-01-01T00:00:00.000Z or after 2200-12-31T23:59:59.999Z lead
to the rejection of a year, and no others. The year is the one that the day of the server's time lies in. -/
theorem make_implausibleYear_iff (world : World σ) {sample : Sample} {estimate : Estimate} {remote : Int}
    (husable : estimate.IsUsable) (hremote : sample.remoteMs = ofInt remote) (hsafe : IsSafe remote) (testOnly : Bool)
    (method : String) (state : σ) :
    ((∃ year cause, (Task.perform world (Decision.make sample estimate testOnly method) state).1 =
          some (.ok (.reject ⟨.implausibleYear year, cause⟩))) ↔
        remote < 1735689600000 ∨ 7289654399999 < remote) ∧
      ∀ year cause, (Task.perform world (Decision.make sample estimate testOnly method) state).1 =
          some (.ok (.reject ⟨.implausibleYear year, cause⟩)) →
        LiesInYear (remote / 86400000) year ∧ (year < 2025 ∨ 2200 < year) ∧ cause = none := by
  have hrejects := make_eq_implausibleYear_iff world husable hremote hsafe testOnly method state
  have hinterval := isPlausibleYear_iff remote
  constructor
  · constructor
    · rintro ⟨year, cause, hrejected⟩
      obtain ⟨hnot, rfl, -⟩ := (hrejects year cause).mp hrejected
      rw [hinterval] at hnot
      omega
    · intro houtside
      refine ⟨_, none, (hrejects _ none).mpr ⟨?_, rfl, rfl⟩⟩
      rw [hinterval]
      omega
  · intro year cause hrejected
    obtain ⟨hnot, hyear, hcause⟩ := (hrejects year cause).mp hrejected
    refine ⟨(yearOfDay_eq_iff _ _).mp hyear.symm, ?_, hcause⟩
    unfold IsPlausibleYear minYear maxYear at hnot
    omega

/-- The last millisecond before 1582-10-15, told by a server. -/
def Sample.lastJulian : Sample where
  localSendMs := 0
  localRecvMs := 1
  remoteMs := ofInt (-12219292800001)

/-- An estimate in fractions of milliseconds. -/
def Estimate.halfAway : Estimate where
  offsetMs := .finite (mkRat (-1001) 2)
  rttMs := .finite (mkRat 1 2)

/-- The year in which the Julian calendar ends is rejected. -/
theorem make_implausibleYear_iff_lastJulian :
    Estimate.halfAway.IsUsable ∧ Sample.lastJulian.remoteMs = ofInt (-12219292800001) ∧ IsSafe (-12219292800001) ∧
      ∃ year, (Task.perform Rehearsal.world (Decision.make Sample.lastJulian Estimate.halfAway false "date")
          (Rehearsal.silentAtFirst true)).1 = some (.ok (.reject ⟨.implausibleYear year, none⟩)) ∧
        LiesInYear (-12219292800001 / 86400000) year := by
  have husable : Estimate.halfAway.IsUsable := ⟨by decide +kernel, by decide +kernel, by decide +kernel⟩
  have hsafe : IsSafe (-12219292800001) := by decide
  obtain ⟨hiff, hnamed⟩ := make_implausibleYear_iff Rehearsal.world husable
    (show Sample.lastJulian.remoteMs = ofInt (-12219292800001) from rfl) hsafe false "date" (Rehearsal.silentAtFirst true)
  obtain ⟨year, cause, hrejected⟩ := hiff.mpr (.inl (by decide))
  obtain ⟨hlies, -, rfl⟩ := hnamed year cause hrejected
  exact ⟨husable, rfl, hsafe, year, hrejected, hlies⟩

end Decisions

end Sntp
