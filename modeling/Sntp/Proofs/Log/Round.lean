import Sntp.Proofs.Log.Steps

/-!
# The first failure of a round

Between two flushes, runs of the command that writes to the system log are started and end. A round is what there
is to know about them at a time (`Round`): those that are still waited for, in the order in which they end, and
the failure that is kept, which is that of the run that failed first. A round stays so when a run is started
(`Round.enter`) and when runs end (`Round.settle`, `Round.settleAll`); when none is waited for any more, the
failure says whether a run failed, and which one did so first (`Round.not_fails`, `Round.exists_failsFirst`).
-/

set_option autoImplicit false

namespace Sntp

/-- The failure that is kept once another run has ended. -/
def SystemLog.failureAfter (kept : Option Failure) : Except Failure Unit → Option Failure
  | .ok _ => kept
  | .error failure => some (firstFailure kept failure)

/-- A run that ends changes the failure that is kept as its result says. -/
theorem SystemLog.failure_settle (log : SystemLog) (run : Nat) (result : Except Failure Unit) :
    (log.settle run result).failure = failureAfter log.failure result := by
  cases result <;> rfl

/-- Runs that end one after the other change the failure that is kept one after the other. -/
theorem SystemLog.failure_foldl_settle (ended : List (Int × Nat × Except Failure Unit)) (log : SystemLog) :
    (ended.foldl (fun log ending => log.settle ending.2.1 ending.2.2) log).failure =
      (ended.map fun ending => ending.2.2).foldl failureAfter log.failure := by
  induction ended generalizing log with
  | nil => rfl
  | cons ending rest ih => rw [List.foldl_cons, ih, failure_settle, List.map_cons, List.foldl_cons]

/-- A failure that has something to say is kept when another one comes up. -/
theorem SystemLog.firstFailure_of_not_isEmpty {kept : Failure} (h : kept.isEmpty = false) (new : Failure) :
    firstFailure (some kept) new = kept := by
  unfold firstFailure
  split
  case h_1 hkept => cases hkept
  case h_2 hkept =>
    cases hkept
    cases h
  case h_3 failure _ hkept => exact (Option.some.inj hkept).symm

/-- Whether a run says what it failed with, if it fails. -/
def LogRun.Speaks (run : LogRun) : Prop := ∀ failure, run.result = .error failure → failure.isEmpty = false

/-- Whether a run is the first one of some runs that fails. -/
structure LogRun.FailsFirst (run : LogRun) (runs : List LogRun) (failure : Failure) : Prop where
  mem : run ∈ runs
  fails : run.result = .error failure
  first : ∀ other ∈ runs, other.Fails → run.Precedes other

/-- How the runs that were started since a flush stand at a time: which ones are waited for, and which failure is
kept. -/
structure Round (recent waiting : List LogRun) (time : Int) (failure : Option Failure) : Prop where
  mem : ∀ run ∈ waiting, run ∈ recent
  settled : ∀ run ∈ recent, run ∈ waiting ∨ run.ended ≤ time
  ordered : waiting.Pairwise LogRun.Precedes
  speaks : ∀ run ∈ recent, run.Speaks
  unfailed : failure = none → ∀ run ∈ recent, run.Fails → run ∈ waiting
  failed : ∀ kept, failure = some kept → ∃ run : LogRun, run.FailsFirst recent kept ∧ run.ended ≤ time

namespace Round

variable {recent waiting first last : List LogRun} {run new : LogRun} {time later : Int} {failure : Option Failure}

/-- A round begins with no runs and no failure. -/
theorem idle (time : Int) : Round [] [] time none where
  mem := nofun
  settled := nofun
  ordered := .nil
  speaks := nofun
  unfailed := nofun
  failed := nofun

/-- A round stays as it is when time passes in which no run ends. -/
theorem mono (h : Round recent waiting time failure) (hle : time ≤ later) : Round recent waiting later failure where
  mem := h.mem
  settled run hmem := (h.settled run hmem).imp_right fun hended => Int.le_trans hended hle
  ordered := h.ordered
  speaks := h.speaks
  unfailed := h.unfailed
  failed kept hkept := by
    obtain ⟨run, hfirst, hended⟩ := h.failed kept hkept
    exact ⟨run, hfirst, Int.le_trans hended hle⟩

/-- A run is started. It is waited for from where its end comes among those of the others. -/
theorem enter (h : Round recent (first ++ last) time failure) (hspeaks : new.Speaks) (hended : time ≤ new.ended)
    (hnumber : ∀ run ∈ recent, run.number ≤ new.number) (hfirst : ∀ run ∈ first, run.Precedes new)
    (hlast : ∀ run ∈ last, new.Precedes run) : Round (recent ++ [new]) (first ++ new :: last) time failure where
  mem run hmem := by
    rw [List.mem_append, List.mem_singleton]
    rcases List.mem_append.mp hmem with hmem | hmem
    · exact .inl (h.mem run (List.mem_append_left _ hmem))
    rcases List.mem_cons.mp hmem with rfl | hmem
    · exact .inr rfl
    · exact .inl (h.mem run (List.mem_append_right _ hmem))
  settled run hmem := by
    rcases List.mem_append.mp hmem with hmem | hmem
    · rcases h.settled run hmem with hwaiting | hover
      · refine .inl ?_
        rcases List.mem_append.mp hwaiting with hwaiting | hwaiting <;> simp [hwaiting]
      · exact .inr hover
    · exact .inl (by simp [List.mem_singleton.mp hmem])
  ordered := by
    obtain ⟨hfirsts, hlasts, hbetween⟩ := List.pairwise_append.mp h.ordered
    refine List.pairwise_append.mpr ⟨hfirsts, List.pairwise_cons.mpr ⟨hlast, hlasts⟩, fun one hone other hother => ?_⟩
    rcases List.mem_cons.mp hother with rfl | hother
    · exact hfirst one hone
    · exact hbetween one hone other hother
  speaks run hmem := by
    rcases List.mem_append.mp hmem with hmem | hmem
    · exact h.speaks run hmem
    · exact List.mem_singleton.mp hmem ▸ hspeaks
  unfailed hnone run hmem hfails := by
    rcases List.mem_append.mp hmem with hmem | hmem
    · have hwaiting := h.unfailed hnone run hmem hfails
      rcases List.mem_append.mp hwaiting with hwaiting | hwaiting <;> simp [hwaiting]
    · simp [List.mem_singleton.mp hmem]
  failed kept hkept := by
    obtain ⟨run, hfails, hover⟩ := h.failed kept hkept
    refine ⟨run, ⟨List.mem_append_left _ hfails.mem, hfails.fails, fun other hmem hother => ?_⟩, hover⟩
    rcases List.mem_append.mp hmem with hmem | hmem
    · exact hfails.first other hmem hother
    · -- The new run ends no earlier than now, and has a higher number.
      obtain rfl := List.mem_singleton.mp hmem
      have hle : run.ended ≤ other.ended := Int.le_trans hover hended
      rcases Int.lt_or_eq_of_le hle with hlt | heq
      · exact .inl hlt
      · exact .inr ⟨heq, .inl (hnumber run hfails.mem)⟩

/-- The run that ends first among those that are waited for ends. -/
theorem settle (h : Round recent (run :: waiting) time failure) (hended : run.ended ≤ time) :
    Round recent waiting time (SystemLog.failureAfter failure run.result) := by
  have hrecent : run ∈ recent := h.mem run (List.mem_cons_self ..)
  obtain ⟨hprecedes, hordered⟩ := List.pairwise_cons.mp h.ordered
  refine ⟨fun other hmem => h.mem other (List.mem_cons_of_mem _ hmem), fun other hmem => ?_, hordered, h.speaks, ?_, ?_⟩
  · rcases h.settled other hmem with hwaiting | hover
    · rcases List.mem_cons.mp hwaiting with rfl | hwaiting
      · exact .inr hended
      · exact .inl hwaiting
    · exact .inr hover
  · intro hnone other hmem hfails
    cases hresult : run.result with
    | error new =>
      rw [hresult] at hnone
      cases hnone
    | ok =>
      rw [hresult] at hnone
      rcases List.mem_cons.mp (h.unfailed hnone other hmem hfails) with rfl | hwaiting
      · obtain ⟨new, hnew⟩ := hfails
        rw [hresult] at hnew
        cases hnew
      · exact hwaiting
  · intro kept hkept
    cases hresult : run.result with
    | ok =>
      rw [hresult] at hkept
      exact h.failed kept hkept
    | error new =>
      rw [hresult] at hkept
      cases hfailure : failure with
      | none =>
        -- No run has failed so far, so that all that fail were waited for, and this one comes first.
        obtain rfl : new = kept := by
          rw [hfailure] at hkept
          exact Option.some.inj hkept
        refine ⟨run, ⟨hrecent, hresult, fun other hmem hfails => ?_⟩, hended⟩
        rcases List.mem_cons.mp (h.unfailed hfailure other hmem hfails) with rfl | hwaiting
        · exact .inr ⟨rfl, .inl (Nat.le_refl _)⟩
        · exact hprecedes other hwaiting
      | some old =>
        obtain ⟨earlier, hfirst, hover⟩ := h.failed old hfailure
        have hspoken : old.isEmpty = false := h.speaks earlier hfirst.mem old hfirst.fails
        obtain rfl : old = kept := by
          rw [hfailure] at hkept
          exact (SystemLog.firstFailure_of_not_isEmpty hspoken new).symm.trans (Option.some.inj hkept)
        exact ⟨earlier, hfirst, hover⟩

/-- The runs that end first among those that are waited for end, one after the other. -/
theorem settleAll (h : Round recent (first ++ last) time failure) (hended : ∀ run ∈ first, run.ended ≤ time) :
    Round recent last time ((first.map LogRun.result).foldl SystemLog.failureAfter failure) := by
  induction first generalizing failure with
  | nil => exact h
  | cons run rest ih =>
    have hsettled : Round recent (rest ++ last) time (SystemLog.failureAfter failure run.result) :=
      h.settle (hended run (List.mem_cons_self ..))
    exact ih hsettled fun other hmem => hended other (List.mem_cons_of_mem _ hmem)

/-- When no run is waited for, all have ended. -/
theorem ended_le (h : Round recent [] time failure) : ∀ run ∈ recent, run.ended ≤ time := fun run hmem =>
  (h.settled run hmem).resolve_left List.not_mem_nil

/-- If nothing is waited for and no failure is kept, no run of a round has failed. -/
theorem not_fails (h : Round recent [] time none) : ∀ run ∈ recent, ¬ run.Fails := fun run hmem hfails =>
  List.not_mem_nil (h.unfailed rfl run hmem hfails)

/-- The failure that is kept has something to say, and is that of the run that failed first. -/
theorem exists_failsFirst {kept : Failure} (h : Round recent waiting time (some kept)) :
    kept.isEmpty = false ∧ ∃ run : LogRun, run.FailsFirst recent kept := by
  obtain ⟨run, hfirst, -⟩ := h.failed kept rfl
  exact ⟨h.speaks run hfirst.mem kept hfirst.fails, run, hfirst⟩

end Round

end Sntp
