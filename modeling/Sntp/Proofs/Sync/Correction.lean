import Sntp.Proofs.Clock.Gates
import Sntp.Proofs.Rehearsal.Course
import Sntp.Proofs.Sync.Failures
import Sntp.Proofs.Sync.Settings

/-!
# The time to set and the time that is right

Two halves are dropped of their fractions, that of the sum of the local times for the offset and that of the round trip
for the time to set. They add up to the later local time, or to a millisecond less (`halves_add`). So the time to set is
the local time moved by the offset that is reported, or a millisecond short of it, and a decision that comes to a time
moves the clock to the side that the offset tells (`correctedTime_agrees`).

However the round trip is divided between request and response, the offset and the time to set are wrong by half of it
at most, rounded up, and so a decision never comes to a time that is more than five seconds off (`estimate_error_le`).
-/

set_option autoImplicit false

namespace Sntp

open Number

section Halves

/-- The halves of the sum and of the difference lose a millisecond between them if both of them lose half of one to the
same side, which is when the sum is positive. -/
theorem halves_add {sent received : Int} (h : sent ≤ received) :
    (sent + received).tdiv 2 + (received - sent).tdiv 2 =
      received - if (received - sent) % 2 = 1 ∧ 0 < sent + received then 1 else 0 := by
  rw [tdiv_two_eq, tdiv_two_eq]
  split <;> split <;> split <;> omega

/-- A time between two others is no farther from their middle than half of the distance between these, rounded up. -/
theorem natAbs_sub_middle_le {sent stamped received : Int} (hsent : sent ≤ stamped) (hreceived : stamped ≤ received) :
    ((stamped - (sent + received).tdiv 2).natAbs : Int) ≤ (received - sent + 1) / 2 := by
  rw [tdiv_two_eq]
  split <;> omega

/-- Nor is it, half of the distance later, farther from the later one. -/
theorem natAbs_add_half_sub_le {sent stamped received : Int} (hsent : sent ≤ stamped) (hreceived : stamped ≤ received) :
    ((stamped + (received - sent).tdiv 2 - received).natAbs : Int) ≤ (received - sent + 1) / 2 := by
  rw [tdiv_two_eq]
  split <;> omega

end Halves

/-- The time to set is that of the server and half of the round trip. -/
theorem correctedTime_eq {remote trip timeMs : Int} (h : correctedTime (ofInt remote) (ofInt trip) = .ok timeMs) :
    timeMs = remote + trip.tdiv 2 := by
  unfold correctedTime checkedAdd at h
  rw [halfTruncated_ofInt] at h
  obtain ⟨m, n, hm, hn, -, -, -, rfl⟩ := (checked_eq_ok_iff ..).mp h
  rw [ofInt_inj.mp hm, ofInt_inj.mp hn]

/-- What the gates leave is the time to set, and the round trip and the offset are in order. -/
theorem corrected_of_assess {sample : Sample} {estimate : Estimate} {timeMs : Int}
    (h : assess sample estimate = .ok (.inr timeMs)) :
    ¬ (estimate.rttMs.lt 0 = true ∨ (maxRoundTrip : Number).lt estimate.rttMs = true) ∧
      ¬ estimate.offsetMs.abs.lt minAdjustment = true ∧ correctedTime sample.remoteMs estimate.rttMs = .ok timeMs := by
  unfold assess at h
  split at h
  case isTrue => cases h
  case isFalse htrip =>
    split at h
    case isTrue => cases h
    case isFalse hoffset =>
      refine ⟨htrip, hoffset, ?_⟩
      split at h
      · cases h
      split at h
      · split at h
        · cases h
        · rename_i left hleft
          rw [hleft, Sum.inr.inj (Except.ok.inj h)]
      · cases h

/-- The time that a decision tells of. -/
def Decision.time? : Decision → Option Int
  | .testOnly timeMs => some timeMs
  | .deny timeMs => some timeMs
  | .apply timeMs => some timeMs
  | _ => none

/-- Whether it comes to a time when it is decided about the clock: either the clock is set to it, or the decision tells of
it. -/
def ComesTo {σ : Type} (world : World σ) (sample : Sample) (estimate : Estimate) (testOnly : Bool) (method : String)
    (state : σ) (timeMs : Int) : Prop :=
  timeMs ∈ settings (Task.actions world (Decision.make sample estimate testOnly method) state) ∨
    ∃ decision, (Task.perform world (Decision.make sample estimate testOnly method) state).1 = some (.ok decision) ∧
      decision.time? = some timeMs

/-- The gates tell of no time. -/
theorem Decision.time?_of_assess {sample : Sample} {estimate : Estimate} {decision : Decision}
    (h : assess sample estimate = .ok (.inl decision)) : decision.time? = none := by
  cases Decision.gated_of_assess h <;> rfl

/-- It comes to no time but the one that the gates leave. -/
theorem ComesTo.assess_eq {σ : Type} {world : World σ} {sample : Sample} {estimate : Estimate} {testOnly : Bool}
    {method : String} {state : σ} {timeMs : Int} (h : ComesTo world sample estimate testOnly method state timeMs) :
    assess sample estimate = .ok (.inr timeMs) := by
  rcases h with hset | ⟨decision, hmade, htime⟩
  · exact assess_of_mem_settings_make hset
  rcases gates_or_follows hmade with hassess | ⟨left, hassess, hfollows⟩
  · rw [Decision.time?_of_assess hassess] at htime
    cases htime
  · cases hfollows with
    | notSet own cause => cases htime
    | _ => rw [hassess, Option.some.inj htime]

/-- An estimate of integer times, with the round trip in order where it comes to a time. -/
theorem ComesTo.corrected {σ : Type} {world : World σ} {sample : Sample} {offset trip : Int} {testOnly : Bool}
    {method : String} {state : σ} {timeMs : Int}
    (h : ComesTo world sample { offsetMs := ofInt offset, rttMs := ofInt trip } testOnly method state timeMs) :
    0 ≤ trip ∧ trip ≤ 10000 ∧ 500 ≤ offset.natAbs ∧ correctedTime sample.remoteMs (ofInt trip) = .ok timeMs := by
  obtain ⟨htrip, hoffset, hcorrected⟩ := corrected_of_assess h.assess_eq
  have htrip' : ¬ ((ofInt trip).lt (ofInt 0) = true ∨ (ofInt maxRoundTrip).lt (ofInt trip) = true) := htrip
  have hoffset' : ¬ (ofInt offset).abs.lt (ofInt minAdjustment) = true := hoffset
  rw [lt_ofInt, lt_ofInt, decide_eq_true_iff, decide_eq_true_iff] at htrip'
  rw [abs_ofInt, lt_ofInt, decide_eq_true_iff] at hoffset'
  unfold maxRoundTrip at htrip'
  unfold minAdjustment at hoffset'
  exact ⟨by omega, by omega, by omega, hcorrected⟩

/-- The time to set is the local time at the response and the offset, but for a millisecond if the round trip is odd and
the local times lie after 1970. A decision that comes to a time moves the clock to the side of the offset, by 500
milliseconds or more if that is back and by 499 or more if it is ahead. -/
theorem correctedTime_agrees {sample : Sample} {estimate : Estimate} (hestimated : sample.estimate = .ok estimate) :
    ∃ sent received offset trip : Int, sample.localSendMs = ofInt sent ∧ sample.localRecvMs = ofInt received ∧
      estimate = { offsetMs := ofInt offset, rttMs := ofInt trip } ∧
      (0 ≤ trip → ∀ timeMs, correctedTime sample.remoteMs estimate.rttMs = .ok timeMs →
        timeMs = received + offset - if trip % 2 = 1 ∧ 0 < sent + received then 1 else 0) ∧
      ∀ {σ : Type} (world : World σ) (testOnly : Bool) (method : String) (state : σ) (timeMs : Int),
        ComesTo world sample estimate testOnly method state timeMs →
          (500 ≤ offset ∧ received + 499 ≤ timeMs) ∨ (offset ≤ -500 ∧ timeMs ≤ received - 500) := by
  obtain ⟨sent, received, remote, hexact, rfl⟩ := (Sample.estimate_eq_ok_iff sample estimate).mp hestimated
  have hagrees : 0 ≤ received - sent → ∀ timeMs, correctedTime sample.remoteMs (ofInt (received - sent)) = .ok timeMs →
      timeMs = received + (remote - (sent + received).tdiv 2) -
        if (received - sent) % 2 = 1 ∧ 0 < sent + received then 1 else 0 := by
    intro htrip timeMs hcorrected
    rw [hexact.remote_eq] at hcorrected
    have htime := correctedTime_eq hcorrected
    have hhalves := halves_add (show sent ≤ received by omega)
    omega
  refine ⟨sent, received, _, _, hexact.sent_eq, hexact.received_eq, rfl, hagrees, ?_⟩
  intro σ world testOnly method state timeMs hcomes
  obtain ⟨htrip, -, hoffset, hcorrected⟩ := hcomes.corrected
  have htime := hagrees htrip timeMs hcorrected
  generalize remote - (sent + received).tdiv 2 = offset at *
  split at htime <;> omega

/-- The times of an exchange whose round trip is odd, with a server that is ahead. -/
def Sample.oddTrip : Sample where
  localSendMs := ofInt 1749999990000
  localRecvMs := ofInt 1749999990101
  remoteMs := ofInt 1750000000000

/-- The estimate of that exchange. -/
def Estimate.oddTrip : Estimate where
  offsetMs := ofInt 9950
  rttMs := ofInt 101

/-- There the clock is set to a time that is a millisecond short of the offset. -/
theorem correctedTime_agrees_oddTrip :
    Sample.oddTrip.estimate = .ok Estimate.oddTrip ∧
      correctedTime Sample.oddTrip.remoteMs Estimate.oddTrip.rttMs = .ok 1750000000050 ∧
      ComesTo Rehearsal.world Sample.oddTrip Estimate.oddTrip false "date" (Rehearsal.silentAtFirst true) 1750000000050 ∧
      ∃ received offset : Int, Sample.oddTrip.localRecvMs = ofInt received ∧ Estimate.oddTrip.offsetMs = ofInt offset ∧
        1750000000050 = received + offset - 1 ∧ received + 499 ≤ 1750000000050 := by
  have hestimated : Sample.oddTrip.estimate = .ok Estimate.oddTrip := by rfl
  have hcorrected : correctedTime Sample.oddTrip.remoteMs Estimate.oddTrip.rttMs = .ok 1750000000050 :=
    correctedTime_ofInt (by decide) (by decide) (by decide)
  have hcomes : ComesTo Rehearsal.world Sample.oddTrip Estimate.oddTrip false "date" (Rehearsal.silentAtFirst true)
      1750000000050 := .inl (by decide +kernel)
  obtain ⟨sent, received, offset, trip, hsent, hreceived, hestimate, hagrees, hside⟩ := correctedTime_agrees hestimated
  obtain rfl : 1749999990000 = sent := ofInt_inj.mp hsent
  obtain rfl : 101 = trip := ofInt_inj.mp (congrArg Estimate.rttMs hestimate)
  obtain rfl : 9950 = offset := ofInt_inj.mp (congrArg Estimate.offsetMs hestimate)
  obtain rfl : 1749999990101 = received := ofInt_inj.mp hreceived
  have htime := hagrees (by decide) 1750000000050 hcorrected
  have hahead := hside Rehearsal.world false "date" (Rehearsal.silentAtFirst true) 1750000000050 hcomes
  refine ⟨hestimated, hcorrected, hcomes, _, _, hreceived, rfl, htime, ?_⟩
  rcases hahead with ⟨-, hahead⟩ | ⟨hback, -⟩
  · exact hahead
  · exact absurd hback (by decide)

/-- With a server whose clock is always ahead by `shift`, and a response stamped at some time between its request and its
arrival, the offset is wrong by half of the round trip at most, rounded up, and so is the time to set; one that it comes
to is not off by more than five seconds. -/
theorem estimate_error_le {sent stamped received shift : Int} {sample : Sample} {estimate : Estimate}
    (hsample : sample = { localSendMs := ofInt sent, localRecvMs := ofInt received, remoteMs := ofInt (stamped + shift) })
    (hsent : sent ≤ stamped) (hreceived : stamped ≤ received) (hestimated : sample.estimate = .ok estimate) :
    (∃ offset : Int, estimate.offsetMs = ofInt offset ∧ ((offset - shift).natAbs : Int) ≤ (received - sent + 1) / 2) ∧
      (∀ timeMs, correctedTime sample.remoteMs estimate.rttMs = .ok timeMs →
        ((timeMs - (received + shift)).natAbs : Int) ≤ (received - sent + 1) / 2) ∧
      ∀ {σ : Type} (world : World σ) (testOnly : Bool) (method : String) (state : σ) (timeMs : Int),
        ComesTo world sample estimate testOnly method state timeMs → (timeMs - (received + shift)).natAbs ≤ 5000 := by
  obtain ⟨sent', received', remote, hexact, rfl⟩ := (Sample.estimate_eq_ok_iff sample estimate).mp hestimated
  subst hsample
  obtain rfl : sent = sent' := ofInt_inj.mp hexact.sent_eq
  obtain rfl : received = received' := ofInt_inj.mp hexact.received_eq
  obtain rfl : stamped + shift = remote := ofInt_inj.mp hexact.remote_eq
  have hcorrected : ∀ timeMs, correctedTime (ofInt (stamped + shift)) (ofInt (received - sent)) = .ok timeMs →
      ((timeMs - (received + shift)).natAbs : Int) ≤ (received - sent + 1) / 2 := by
    intro timeMs htime
    have hbound := natAbs_add_half_sub_le hsent hreceived
    rw [correctedTime_eq htime]
    omega
  refine ⟨⟨_, rfl, ?_⟩, hcorrected, ?_⟩
  · have hbound := natAbs_sub_middle_le hsent hreceived
    omega
  · intro σ world testOnly method state timeMs hcomes
    obtain ⟨-, htrip, -, htime⟩ := hcomes.corrected
    have hbound := hcorrected timeMs htime
    omega

/-- The times of an exchange of which all the round trip is the way back, with a server that is ten seconds ahead. -/
def Sample.allBack : Sample where
  localSendMs := ofInt 1749999990000
  localRecvMs := ofInt 1749999999999
  remoteMs := ofInt (1749999990000 + 10000)

/-- There the time that the clock is set to is five seconds off. -/
theorem estimate_error_le_allBack :
    Sample.allBack.estimate = .ok { offsetMs := ofInt 5001, rttMs := ofInt 9999 } ∧
      ComesTo Rehearsal.world Sample.allBack { offsetMs := ofInt 5001, rttMs := ofInt 9999 } false "date"
        (Rehearsal.silentAtFirst true) 1750000004999 ∧
      ((1750000004999 : Int) - (1749999999999 + 10000)).natAbs ≤ 5000 := by
  have hestimated : Sample.allBack.estimate = .ok { offsetMs := ofInt 5001, rttMs := ofInt 9999 } := by rfl
  have hcomes : ComesTo Rehearsal.world Sample.allBack { offsetMs := ofInt 5001, rttMs := ofInt 9999 } false "date"
      (Rehearsal.silentAtFirst true) 1750000004999 := .inl (by decide +kernel)
  have htimes : Sample.allBack =
      { localSendMs := ofInt 1749999990000, localRecvMs := ofInt 1749999999999, remoteMs := ofInt (1749999990000 + 10000) } :=
    rfl
  obtain ⟨-, -, hbound⟩ := estimate_error_le htimes (by decide) (by decide) hestimated
  exact ⟨hestimated, hcomes, hbound Rehearsal.world false "date" (Rehearsal.silentAtFirst true) 1750000004999 hcomes⟩

end Sntp
