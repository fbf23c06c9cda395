import Sntp.Proofs.Number.Products
import Sntp.Proofs.Rehearsal.Outcomes
import Sntp.Proofs.Sync.Correction
import Sntp.Proofs.Sync.YearGate

/-!
# Calls of the clock setter

A decision calls the clock setter once or not at all (`setterCalls_make`). The numbers that it is made from may be any:
what calls the setter is the time that a checked sum leaves, and so the server's time and the time to set are safe
integers, and the round trip is in order (`exists_isCorrected`). What becomes of the call makes the decision: it is to
apply the time if the setter succeeded, and a rejection with a clock setter's fault if it failed
(`Decision.afterSetting_eq_apply_iff`, `Decision.afterSetting_error`).
-/

set_option autoImplicit false

namespace Sntp

open Number

/-- A call of the clock setter: the time that it was given and how it ended, unless it never did. -/
structure SetterCall where
  timeMs : Int
  ending : Option (Except Failure Unit)
  deriving DecidableEq

section Calls

variable {σ : Type} {world : World σ}

/-- The call that an action is in a state of the world. -/
def Action.setterCall? (world : World σ) (state : σ) : Action → Option SetterCall
  | .setClock timeMs => some ⟨timeMs, (world (.setClock timeMs) state).1⟩
  | _ => none

/-- The calls of the clock setter that a task makes in a world, in order. -/
def setterCalls {α : Type} (world : World σ) (task : Task α) (state : σ) : List SetterCall :=
  (task.run.history id world state).filterMap fun (before, action) => action.setterCall? world before

/-- The times of the calls are those that the clock is set to. -/
theorem timeMs_setterCalls {α : Type} (world : World σ) (task : Task α) (state : σ) :
    (setterCalls world task state).map (·.timeMs) = settings (Task.actions world task state) := by
  unfold setterCalls settings Task.actions
  rw [← Program.map_snd_history id, List.map_filterMap, List.filterMap_map]
  congr 1
  funext ⟨before, action⟩
  cases action <;> rfl

variable {sample : Sample} {estimate : Estimate} {testOnly : Bool} {method : String} {state : σ} {timeMs : Int}

/-- A decision is made by the gates, or else it asks for privilege, and with it calls the clock setter. -/
theorem run_make (sample : Sample) (estimate : Estimate) (testOnly : Bool) (method : String) :
    (Decision.make sample estimate testOnly method).run =
      match assess sample estimate with
      | .error failure => .done (.error failure)
      | .ok (.inl decision) => .done (.ok decision)
      | .ok (.inr timeMs) =>
        if testOnly then .done (.ok (.testOnly timeMs))
        else .perform .isPrivileged fun privileged =>
          if privileged then .perform (.setClock timeMs) fun result => .done (.ok (Decision.afterSetting method timeMs result))
          else .done (.ok (.deny timeMs)) := by
  unfold Decision.make
  match assess sample estimate with
  | .error failure => rfl
  | .ok (.inl decision) => rfl
  | .ok (.inr timeMs) =>
    cases testOnly with
    | true => rfl
    | false =>
      refine congrArg (Program.perform .isPrivileged) (funext fun privileged => ?_)
      cases privileged with
      | false => rfl
      | true => rfl

/-- The clock setter is called where the gates leave a time to set and the mode and the privilege allow it. -/
theorem setterCalls_make (world : World σ) (sample : Sample) (estimate : Estimate) (testOnly : Bool) (method : String)
    (state : σ) :
    setterCalls world (Decision.make sample estimate testOnly method) state =
      match assess sample estimate with
      | .ok (.inr timeMs) =>
        if testOnly then []
        else
          match world .isPrivileged state with
          | (some true, after) => [⟨timeMs, (world (.setClock timeMs) after).1⟩]
          | _ => []
      | _ => [] := by
  unfold setterCalls
  rw [run_make]
  match assess sample estimate with
  | .error failure => rfl
  | .ok (.inl decision) => rfl
  | .ok (.inr timeMs) =>
    cases testOnly with
    | true => rfl
    | false =>
      simp only [Program.history, List.filterMap_cons, Action.setterCall?, id, Bool.false_eq_true, if_false]
      cases world .isPrivileged state with
      | mk privileged? after =>
        cases privileged? with
        | none => rfl
        | some privileged =>
          cases privileged with
          | false => rfl
          | true =>
            simp only [if_true, Program.history, List.filterMap_cons, id]
            cases world (.setClock timeMs) after with
            | mk result? later => cases result? <;> rfl

/-- A call of the clock setter is made with the time that the gates leave, after the question for privilege. -/
theorem mem_setterCalls_make_iff (call : SetterCall) :
    call ∈ setterCalls world (Decision.make sample estimate testOnly method) state ↔
      assess sample estimate = .ok (.inr call.timeMs) ∧ testOnly = false ∧ (world .isPrivileged state).1 = some true ∧
        call.ending = (world (.setClock call.timeMs) (world .isPrivileged state).2).1 := by
  rw [setterCalls_make]
  match hassess : assess sample estimate with
  | .error failure => simp
  | .ok (.inl decision) => simp
  | .ok (.inr timeMs) =>
    cases testOnly with
    | true => simp
    | false =>
      match world .isPrivileged state with
      | (none, after) => simp
      | (some false, after) => simp
      | (some true, after) =>
        simp only [Bool.false_eq_true, if_false, List.mem_singleton, Except.ok.injEq, Sum.inr.injEq, true_and]
        constructor
        · rintro rfl
          exact ⟨rfl, rfl⟩
        · rintro ⟨rfl, hending⟩
          rw [← hending]

/-- What the decision comes to after a call of the clock setter depends on how the call ended. -/
theorem perform_make_of_mem {call : SetterCall}
    (h : call ∈ setterCalls world (Decision.make sample estimate testOnly method) state) :
    (Task.perform world (Decision.make sample estimate testOnly method) state).1 =
      call.ending.map fun result => .ok (Decision.afterSetting method call.timeMs result) := by
  obtain ⟨hassess, rfl, hprivileged, hending⟩ := (mem_setterCalls_make_iff call).mp h
  rw [perform_make, hassess, hending]
  match hasked : world .isPrivileged state with
  | (answer, after) =>
    rw [hasked] at hprivileged
    obtain rfl : answer = some true := hprivileged
    simp only [Bool.false_eq_true, if_false]
    match world (.setClock call.timeMs) after with
    | (none, later) => rfl
    | (some result, later) => rfl

end Calls

section Endings

variable {method : String} {timeMs : Int}

/-- Whether a failure is a clock setter's own. -/
def Failure.IsClockNotSet (failure : Failure) : Prop := ∃ own, failure.fault? = some (.clockNotSet own)

/-- The diagnosis of a failure tells its fault. -/
theorem Failure.map_fault_diagnosis? (failure : Failure) : failure.diagnosis?.map (·.fault) = failure.fault? := by
  cases failure <;> rfl

/-- The decision is to apply a time exactly if the setter succeeded with it. -/
theorem Decision.afterSetting_eq_apply_iff (result : Except Failure Unit) (other : Int) :
    Decision.afterSetting method timeMs result = .apply other ↔ result = .ok () ∧ timeMs = other := by
  cases result with
  | ok done => simp [afterSetting]
  | error failure =>
    simp only [afterSetting]
    split <;> simp

/-- It is a rejection with a clock setter's fault if the setter failed. The failure is kept if it is such a fault already,
and becomes the cause of one otherwise. -/
theorem Decision.afterSetting_error (method : String) (timeMs : Int) (failure : Failure) :
    ∃ diagnosis, Decision.afterSetting method timeMs (.error failure) = .reject diagnosis ∧ diagnosis.failure.IsClockNotSet ∧
      (failure.IsClockNotSet → diagnosis.failure = failure) ∧
      (¬ failure.IsClockNotSet → diagnosis = ⟨.clockNotSet method, some failure⟩) := by
  by_cases hown : failure.IsClockNotSet
  · have ⟨own, hfault⟩ := hown
    cases failure with
    | fault f =>
      obtain rfl : f = .clockNotSet own := Option.some.inj hfault
      exact ⟨⟨.clockNotSet own, none⟩, rfl, hown, fun _ => rfl, fun hnot => absurd hown hnot⟩
    | faultFrom f cause =>
      obtain rfl : f = .clockNotSet own := Option.some.inj hfault
      exact ⟨⟨.clockNotSet own, some cause⟩, rfl, hown, fun _ => rfl, fun hnot => absurd hown hnot⟩
    | _ => cases hfault
  · refine ⟨⟨.clockNotSet method, some failure⟩, ?_, ⟨method, rfl⟩, fun h => absurd h hown, fun _ => rfl⟩
    simp only [afterSetting]
    split
    case h_1 own cause hdiagnosis =>
      refine absurd ⟨own, ?_⟩ hown
      rw [← failure.map_fault_diagnosis?, hdiagnosis]
      rfl
    case h_2 => rfl

end Endings

section Times

/-- What is in order about a time that the clock is set to: it is counted exactly from a server's time that is counted
exactly too and lies in a plausible year, with half of a round trip of ten seconds at most, and the offset is worth it. -/
structure IsCorrected (sample : Sample) (estimate : Estimate) (timeMs remote : Int) (trip : Rat) : Prop where
  remote_eq : sample.remoteMs = ofInt remote
  remote_safe : IsSafe remote
  remote_plausible : IsPlausibleYear (yearOfDay (remote / Moment.dayLength))
  trip_eq : estimate.rttMs = .finite trip
  trip_nonneg : 0 ≤ trip
  trip_le : trip ≤ 10000
  time_eq : timeMs = remote + wholePart (trip / 2)
  time_safe : IsSafe timeMs
  offset_not_small : estimate.offsetMs.abs.lt 500 = false

/-- Only such times are left by the gates. An undefined round trip is not out of range and an undefined time is not early,
but neither gets past the checked sum. -/
theorem exists_isCorrected {sample : Sample} {estimate : Estimate} {timeMs : Int}
    (h : assess sample estimate = .ok (.inr timeMs)) : ∃ remote trip, IsCorrected sample estimate timeMs remote trip := by
  obtain ⟨htrip, hoffset, hcorrected⟩ := corrected_of_assess h
  unfold correctedTime checkedAdd at hcorrected
  obtain ⟨remote, half, hremote, hhalf, hsafe, -, htime, rfl⟩ := (checked_eq_ok_iff ..).mp hcorrected
  have husable : estimate.IsUsable := by
    rw [not_or, Bool.not_eq_true, Bool.not_eq_true] at htrip
    exact ⟨htrip.1, htrip.2, Bool.eq_false_iff.mpr hoffset⟩
  have hplausible : IsPlausibleYear (yearOfDay (remote / Moment.dayLength)) := by
    by_contra hyear
    cases (husable.assess_of_not_plausible hremote hsafe hyear).symm.trans h
  match hrtt : estimate.rttMs with
  | .nan =>
    rw [hrtt] at hhalf
    cases hhalf
  | .infinite negative =>
    rw [hrtt] at hhalf
    cases hhalf
  | .finite trip =>
    have hnegative := husable.trip_not_negative
    have hlong := husable.trip_not_long
    rw [hrtt] at hhalf hnegative hlong
    refine ⟨remote, trip, hremote, hsafe, hplausible, hrtt, ?_, ?_, ?_, htime, husable.offset_not_small⟩
    · exact Rat.not_lt.mp (of_decide_eq_false hnegative)
    · exact Rat.not_lt.mp (of_decide_eq_false hlong)
    · rw [ofInt_inj.mp hhalf]

namespace IsCorrected

variable {sample : Sample} {estimate : Estimate} {timeMs remote : Int} {trip : Rat}

/-- Half of the round trip is five seconds at most. -/
theorem half_bounds (h : IsCorrected sample estimate timeMs remote trip) :
    0 ≤ wholePart (trip / 2) ∧ wholePart (trip / 2) ≤ 5000 := by
  have hnonneg := h.trip_nonneg
  have hle := h.trip_le
  rw [wholePart_eq_floor (by grind)]
  constructor
  · exact Rat.le_floor_iff.mpr (by grind)
  · apply Int.lt_add_one_iff.mp
    exact Rat.floor_lt_iff.mpr (by grind)

/-- The time is within the moments that there are. -/
theorem natAbs_le (h : IsCorrected sample estimate timeMs remote trip) : timeMs.natAbs ≤ 8640000000000000 := by
  have hinterval := (isPlausibleYear_iff remote).mp h.remote_plausible
  have hhalf := h.half_bounds
  have htime := h.time_eq
  omega

/-- In double precision it is the same sum. -/
theorem time_eq_rounded (h : IsCorrected sample estimate timeMs remote trip) (hdouble : IsDouble trip) :
    ofInt timeMs = sample.remoteMs.add (estimate.rttMs.dividedBy 2).truncated := by
  have hsafe := h.time_safe
  rw [h.remote_eq, h.trip_eq, truncated_dividedBy_two hdouble]
  show _ = (ofInt remote).add (ofInt (wholePart (trip / 2)))
  rw [add_ofInt, ← h.time_eq, round_intCast]
  unfold IsSafe safeLimit at hsafe
  omega

end IsCorrected

end Times

section Decisions

variable {σ : Type}

/-- A decision calls the setter once at most. -/
theorem length_setterCalls_make (world : World σ) (sample : Sample) (estimate : Estimate) (testOnly : Bool) (method : String)
    (state : σ) : (setterCalls world (Decision.make sample estimate testOnly method) state).length ≤ 1 := by
  have hlength := length_settings_make world sample estimate testOnly method state
  rwa [← timeMs_setterCalls, List.length_map] at hlength

/-- A decision to apply a time is one after the setter was called with it and succeeded. -/
theorem make_eq_apply_iff (world : World σ) (sample : Sample) (estimate : Estimate) (testOnly : Bool) (method : String)
    (state : σ) (timeMs : Int) :
    (Task.perform world (Decision.make sample estimate testOnly method) state).1 = some (.ok (.apply timeMs)) ↔
      ⟨timeMs, some (.ok ())⟩ ∈ setterCalls world (Decision.make sample estimate testOnly method) state := by
  constructor
  · -- No gate, no question and no setter that fails or never ends leads to such a decision.
    intro happly
    rw [perform_make] at happly
    rw [setterCalls_make]
    match hassess : assess sample estimate with
    | .error failure => simp [hassess] at happly
    | .ok (.inl decision) =>
      rw [hassess] at happly
      obtain rfl : decision = .apply timeMs := Except.ok.inj (Option.some.inj happly)
      cases Decision.gated_of_assess hassess
    | .ok (.inr left) =>
      rw [hassess] at happly
      cases testOnly with
      | true => cases happly
      | false =>
        simp only [Bool.false_eq_true, if_false] at happly ⊢
        revert happly
        match world .isPrivileged state with
        | (none, after) =>
          intro happly
          cases happly
        | (some false, after) =>
          intro happly
          cases happly
        | (some true, after) =>
          simp only []
          match world (.setClock left) after with
          | (none, later) =>
            intro happly
            cases happly
          | (some result, later) =>
            intro happly
            have hmade : Decision.afterSetting method left result = .apply timeMs := Except.ok.inj (Option.some.inj happly)
            obtain ⟨rfl, rfl⟩ := (Decision.afterSetting_eq_apply_iff result timeMs).mp hmade
            exact List.mem_singleton_self _
  · intro hmem
    exact perform_make_of_mem hmem

/-- Whatever numbers a decision is made from and whatever the world answers, the clock setter is called once at most. If it
is called, the server's time and the time to set are safe integers, the round trip is defined and in order, the time to set
is the server's time and half of the round trip, and the offset is not known to be small. The decision is to apply a time
exactly if the setter was called with it and succeeded, and a rejection with a clock setter's fault if it failed. -/
theorem make_calls_setter (world : World σ) (sample : Sample) (estimate : Estimate) (testOnly : Bool) (method : String)
    (state : σ) :
    (setterCalls world (Decision.make sample estimate testOnly method) state).length ≤ 1 ∧
      (∀ call ∈ setterCalls world (Decision.make sample estimate testOnly method) state,
        ∃ remote trip, sample.remoteMs = ofInt remote ∧ remote.natAbs ≤ 2 ^ 53 - 1 ∧ call.timeMs.natAbs ≤ 2 ^ 53 - 1 ∧
          estimate.rttMs = .finite trip ∧ 0 ≤ trip ∧ trip ≤ 10000 ∧ call.timeMs = remote + wholePart (trip / 2) ∧
          (IsDouble trip → ofInt call.timeMs = sample.remoteMs.add (estimate.rttMs.dividedBy 2).truncated) ∧
          estimate.offsetMs.abs.lt 500 = false) ∧
      (∀ timeMs, (Task.perform world (Decision.make sample estimate testOnly method) state).1 = some (.ok (.apply timeMs)) ↔
        ⟨timeMs, some (.ok ())⟩ ∈ setterCalls world (Decision.make sample estimate testOnly method) state) ∧
      ∀ timeMs failure,
        ⟨timeMs, some (.error failure)⟩ ∈ setterCalls world (Decision.make sample estimate testOnly method) state →
          ∃ diagnosis,
            (Task.perform world (Decision.make sample estimate testOnly method) state).1 = some (.ok (.reject diagnosis)) ∧
              diagnosis.failure.IsClockNotSet ∧ (failure.IsClockNotSet → diagnosis.failure = failure) ∧
              (¬ failure.IsClockNotSet → diagnosis = ⟨.clockNotSet method, some failure⟩) := by
  refine ⟨length_setterCalls_make world sample estimate testOnly method state, ?_,
    make_eq_apply_iff world sample estimate testOnly method state, ?_⟩
  · intro call hmem
    obtain ⟨hassess, -⟩ := (mem_setterCalls_make_iff call).mp hmem
    obtain ⟨remote, trip, hcorrected⟩ := exists_isCorrected hassess
    have hremote := hcorrected.remote_safe
    have htime := hcorrected.time_safe
    unfold IsSafe safeLimit at hremote htime
    exact ⟨remote, trip, hcorrected.remote_eq, by omega, by omega, hcorrected.trip_eq, hcorrected.trip_nonneg,
      hcorrected.trip_le, hcorrected.time_eq, hcorrected.time_eq_rounded, hcorrected.offset_not_small⟩
  · intro timeMs failure hmem
    obtain ⟨diagnosis, hafter, hdiagnosis⟩ := Decision.afterSetting_error method timeMs failure
    refine ⟨diagnosis, ?_, hdiagnosis⟩
    rw [perform_make_of_mem hmem, ← hafter]
    rfl

/-- The times of an exchange with a server that is ahead, of which the local ones are undefined. -/
def Sample.undefinedLocally : Sample where
  localSendMs := .nan
  localRecvMs := .nan
  remoteMs := ofInt 1750000000000

/-- An undefined offset, and a round trip that is no integer. -/
def Estimate.undefinedOffset : Estimate where
  offsetMs := .nan
  rttMs := .finite (201 / 2)

/-- An undefined offset is not small, so the clock is set; where that is refused, the refusal is the cause of a clock
setter's fault. -/
theorem make_calls_setter_unsettable :
    setterCalls Rehearsal.world (Decision.make Sample.undefinedLocally Estimate.undefinedOffset false "date")
        Rehearsal.unsettable = [⟨1750000000050, some (.error (.system .ordinary "refused"))⟩] ∧
      IsDouble (201 / 2) ∧
      ofInt 1750000000050 = (ofInt 1750000000000).add ((Number.finite (201 / 2)).dividedBy 2).truncated ∧
      (Task.perform Rehearsal.world (Decision.make Sample.undefinedLocally Estimate.undefinedOffset false "date")
        Rehearsal.unsettable).1 = some (.ok (.reject ⟨.clockNotSet "date", some (.system .ordinary "refused")⟩)) := by
  have hcalls : setterCalls Rehearsal.world (Decision.make Sample.undefinedLocally Estimate.undefinedOffset false "date")
      Rehearsal.unsettable = [⟨1750000000050, some (.error (.system .ordinary "refused"))⟩] := by decide +kernel
  have hdouble : IsDouble (201 / 2) := ⟨201, -1, by decide, by decide, by decide, by decide +kernel⟩
  obtain ⟨-, htimes, -, hfails⟩ := make_calls_setter Rehearsal.world Sample.undefinedLocally Estimate.undefinedOffset false
    "date" Rehearsal.unsettable
  rw [hcalls] at htimes hfails
  obtain ⟨remote, trip, hremote, -, -, htrip, -, -, -, hrounded, -⟩ := htimes _ (List.mem_singleton_self _)
  obtain rfl : 201 / 2 = trip := finite.inj htrip
  obtain ⟨diagnosis, hmade, -, -, hcause⟩ := hfails _ _ (List.mem_singleton_self _)
  have hforeign : ¬ (Failure.system .ordinary "refused").IsClockNotSet := by
    rintro ⟨own, hown⟩
    cases hown
  rw [hcause hforeign] at hmade
  exact ⟨hcalls, hdouble, hrounded hdouble, hmade⟩

end Decisions

end Sntp
