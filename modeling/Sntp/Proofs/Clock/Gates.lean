import Sntp.Proofs.Calendar.Moments
import Sntp.Proofs.Clock.Estimate
import Sntp.Proofs.Sync.Acquisition
import Sntp.Sync.Report

/-!
# The gates before the clock is set

An estimate is made of integers, and the gates ask for these (`assess_ofInt`). They leave a time to set
exactly if the round trip, the offset and the year are in order (`PassesGates`, `assess_eq_inr_iff`). The
server's time being one that a timestamp can tell, the time to set is never out of range, and so it can be
written down (`PassesGates.isoTime_ok`).
-/

set_option autoImplicit false

namespace Sntp

open Number

/-- What the gates ask of a server's time, an offset and a round trip before the clock is set. -/
structure PassesGates (remote offset trip : Int) : Prop where
  trip_nonneg : 0 ≤ trip
  trip_le : trip ≤ 10000
  offset_large : 500 ≤ offset.natAbs
  year_plausible : ∃ year, utcYear? (ofInt remote) = some year ∧ 2025 ≤ year ∧ year ≤ 2200

/-- The time to set is the server's time and half of the round trip, rounded toward zero, if all
three are safe. -/
theorem correctedTime_ofInt {remote trip : Int} (hremote : IsSafe remote) (htrip : IsSafe trip)
    (hsum : IsSafe (remote + trip.tdiv 2)) :
    correctedTime (ofInt remote) (ofInt trip) = .ok (remote + trip.tdiv 2) := by
  unfold correctedTime checkedAdd
  rw [halfTruncated_ofInt]
  exact (checked_eq_ok_iff ..).mpr ⟨remote, trip.tdiv 2, rfl, rfl, hremote, isSafe_half htrip, hsum, rfl⟩

/-- Half of a round trip that is trusted is at most five seconds. -/
theorem tdiv_trip_bounds {trip : Int} (hlow : 0 ≤ trip) (hhigh : trip ≤ 10000) :
    0 ≤ trip.tdiv 2 ∧ trip.tdiv 2 ≤ 5000 := by
  rw [Int.tdiv_eq_ediv_of_nonneg hlow]
  omega

/-- Every integer that is counted exactly has a year. -/
theorem utcYear_ofInt {ms : Int} (hsafe : IsSafe ms) : utcYear (ofInt ms) = .ok (yearOfDay (ms / Moment.dayLength)) := by
  unfold utcYear
  rw [utcYear?_ofInt hsafe]

/-- The times in plausible years are those from 2025-01-01T00:00:00.000Z to 2200-12-31T23:59:59.999Z. -/
theorem isPlausibleYear_iff (ms : Int) :
    IsPlausibleYear (yearOfDay (ms / Moment.dayLength)) ↔ 1735689600000 ≤ ms ∧ ms ≤ 7289654399999 := by
  have hfirst : (Date.mk 2025 1 1).days = 20089 := by decide +kernel
  have hlast : (Date.mk 2201 1 1).days = 84371 := by decide +kernel
  have hlow := le_yearOfDay_iff 2025 (by decide) (ms / Moment.dayLength)
  have hhigh := le_yearOfDay_iff 2201 (by decide) (ms / Moment.dayLength)
  rw [hfirst] at hlow
  rw [hlast] at hhigh
  unfold IsPlausibleYear minYear maxYear
  unfold Moment.dayLength at *
  omega

/-- Every time that a packet can tell is a safe integer. -/
theorem isSafe_of_told {ms : Int} (hlow : 0 ≤ ms) (hhigh : ms ≤ Packet.lastMillis) : IsSafe ms := by
  unfold Packet.lastMillis at hhigh
  unfold IsSafe safeLimit
  omega

/-- The gates ask for integers in this order. -/
theorem assess_ofInt {sample : Sample} {remote trip : Int} (offset : Int) (hremote : sample.remoteMs = ofInt remote)
    (hsafe : IsSafe remote) :
    assess sample { offsetMs := ofInt offset, rttMs := ofInt trip } =
      if trip < 0 ∨ 10000 < trip then .ok (.inl (.reject ⟨.roundTripOutOfRange (ofInt trip), none⟩))
      else if offset.natAbs < 500 then .ok (.inl (.skip (ofInt offset)))
      else
        match utcYear (ofInt remote) with
        | .error failure => .error failure
        | .ok year =>
          if IsPlausibleYear year then .ok (.inr (remote + trip.tdiv 2))
          else .ok (.inl (.reject ⟨.implausibleYear year, none⟩)) := by
  have hround : ((ofInt trip).lt 0 = true ∨ (maxRoundTrip : Number).lt (ofInt trip) = true) ↔
      trip < 0 ∨ 10000 < trip := by
    show ((ofInt trip).lt (ofInt 0) = true ∨ (ofInt maxRoundTrip).lt (ofInt trip) = true) ↔ _
    simp [maxRoundTrip]
  have hoffset : (ofInt offset).abs.lt minAdjustment = true ↔ offset.natAbs < 500 := by
    rw [abs_ofInt, lt_ofInt, decide_eq_true_iff]
    unfold minAdjustment
    omega
  unfold assess
  rw [hremote]
  by_cases htrip : trip < 0 ∨ 10000 < trip
  · rw [if_pos (hround.mpr htrip), if_pos htrip]
  rw [if_neg (mt hround.mp htrip), if_neg htrip]
  by_cases hsmall : offset.natAbs < 500
  · rw [if_pos (hoffset.mpr hsmall), if_pos hsmall]
  rw [if_neg (mt hoffset.mp hsmall), if_neg hsmall]
  rw [utcYear_ofInt hsafe]
  simp only []
  by_cases hplausible : IsPlausibleYear (yearOfDay (remote / Moment.dayLength))
  · -- Past the first gate half of the trip is small, and a time in a plausible year is far from the last safe integer,
    -- so that the checked sum for the time to set cannot fail.
    obtain ⟨hfirst, hlast⟩ := (isPlausibleYear_iff remote).mp hplausible
    obtain ⟨htrip₀, htrip₁⟩ : 0 ≤ trip ∧ trip ≤ 10000 := by omega
    have hhalf := tdiv_trip_bounds htrip₀ htrip₁
    have htime : correctedTime (ofInt remote) (ofInt trip) = .ok (remote + trip.tdiv 2) := by
      refine correctedTime_ofInt hsafe ?_ ?_
      all_goals unfold IsSafe safeLimit; omega
    rw [if_pos hplausible, if_pos hplausible, htime]
  · rw [if_neg hplausible, if_neg hplausible]

/-- The gates leave a time to set exactly if all of them are passed, and then it is the server's time
and half of the round trip. -/
theorem assess_eq_inr_iff {sample : Sample} {estimate : Estimate} {remote offset trip : Int} (timeMs : Int)
    (hremote : sample.remoteMs = ofInt remote) (hlow : 0 ≤ remote) (hhigh : remote ≤ Packet.lastMillis)
    (hestimate : estimate = { offsetMs := ofInt offset, rttMs := ofInt trip }) :
    assess sample estimate = .ok (.inr timeMs) ↔
      PassesGates remote offset trip ∧ timeMs = remote + trip.tdiv 2 := by
  rw [hestimate, assess_ofInt offset hremote (isSafe_of_told hlow hhigh)]
  constructor
  · intro h
    split at h
    · cases h
    rename_i htrip
    split at h
    · cases h
    rename_i hoffset
    unfold utcYear at h
    cases hyear : utcYear? (ofInt remote) with
    | none => simp [hyear] at h
    | some year =>
      simp only [hyear] at h
      split at h
      case isTrue hplausible =>
        cases h
        exact ⟨⟨by omega, by omega, by omega, year, hyear, hplausible⟩, rfl⟩
      case isFalse => cases h
  · rintro ⟨hpasses, rfl⟩
    obtain ⟨hnonneg, hle, hlarge, year, hyear, hplausible⟩ := hpasses
    rw [if_neg (by omega), if_neg (by omega)]
    unfold utcYear
    simp only [hyear]
    exact if_pos hplausible

/-- An integer time can be written down unless it lies too far from 1970-01-01. -/
theorem isoTime_ofInt {ms : Int} (hlow : -8640000000000000 ≤ ms) (hhigh : ms ≤ 8640000000000000) :
    ∃ text, isoTime (ofInt ms) = .ok text := by
  refine ⟨(Moment.ofMillis ms).iso, ?_⟩
  unfold isoTime isoTime?
  rw [Moment.ofNumber?_ofInt (by omega)]
  rfl

/-- A time to set that the gates leave can be written down. -/
theorem PassesGates.isoTime_ok {remote offset trip : Int} (h : PassesGates remote offset trip) (hlow : 0 ≤ remote)
    (hhigh : remote ≤ Packet.lastMillis) : ∃ text, isoTime (ofInt (remote + trip.tdiv 2)) = .ok text := by
  have hhalf := tdiv_trip_bounds h.trip_nonneg h.trip_le
  unfold Packet.lastMillis at hhigh
  refine isoTime_ofInt ?_ ?_
  all_goals omega

/-- So can one that the gates leave of a reply. -/
theorem Reply.isoTime_ok {reply : Reply} {m : Measurement} {estimate : Estimate} {timeMs : Int}
    (hmeasured : reply.measurement = .ok m) (hestimated : m.sample.estimate = .ok estimate)
    (hassessed : assess m.sample estimate = .ok (.inr timeMs)) : ∃ text, isoTime timeMs = .ok text := by
  obtain ⟨exchange, response, -, hresponse, rfl⟩ := (reply.measurement_ok_iff m).mp hmeasured
  obtain ⟨hlow, hhigh⟩ := Response.transmitMs_bounds hresponse
  obtain ⟨sent, received, remote, -, hestimate⟩ := (Sample.estimate_eq_ok_iff _ estimate).mp hestimated
  obtain ⟨hpasses, rfl⟩ := (assess_eq_inr_iff timeMs rfl hlow hhigh hestimate).mp hassessed
  exact hpasses.isoTime_ok hlow hhigh

end Sntp
