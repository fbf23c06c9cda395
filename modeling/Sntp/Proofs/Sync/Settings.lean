import Sntp.Proofs.Sync.Parts

/-!
# Where the clock is set

The clock is set by one part of a synchronization only, the decision, and there exactly once or not
at all (`settings_make`). From the parts in which nothing sets it (`settings_of_leavesClock`) follows
what a whole run sets it to (`settings_synchronize`, `settings_proceed`, `settings_conclude`).
-/

set_option autoImplicit false

namespace Sntp

/-- The time that an action sets the clock to. -/
def Action.setting? : Action → Option Int
  | .setClock timeMs => some timeMs
  | _ => none

/-- An action that leaves the clock alone sets no time. -/
theorem Action.LeavesClock.setting?_eq {action : Action} (h : action.LeavesClock) : action.setting? = none := by
  cases action with
  | setClock timeMs => cases h
  | _ => rfl

variable {σ : Type} {world : World σ}

/-- The times that actions set the clock to. -/
def settings (actions : List Action) : List Int := actions.filterMap Action.setting?

/-- A run that leaves the clock sets it to no time. -/
theorem settings_of_leavesClock (world : World σ) {α : Type} {task : Task α}
    (h : Task.Only Action.LeavesClock task) (state : σ) :
    settings (Task.actions world task state) = [] :=
  Program.Only.filterMap_actions (fun _ hleaves => hleaves.setting?_eq) h world state

/-- In two parts, the clock is set by the first one, and then by the second if it comes to that. -/
theorem settings_bind {α β : Type} (task : Task α) (next : α → Task β) (state : σ) :
    settings (Task.actions world (task >>= next) state) =
      settings (Task.actions world task state) ++
        match Task.perform world task state with
        | (some (.ok value), after) => settings (Task.actions world (next value) after)
        | _ => [] := by
  refine (Task.filterMap_actions_bind world state Action.setting? task next).trans ?_
  match Task.perform world task state with
  | (none, after) => rfl
  | (some (.error failure), after) => rfl
  | (some (.ok value), after) => rfl

/-- The decision sets the clock exactly if the gates leave a time to set, and the mode and the
privilege allow it. -/
theorem settings_make (sample : Sample) (estimate : Estimate) (testOnly : Bool) (method : String) (state : σ) :
    settings (Task.actions world (Decision.make sample estimate testOnly method) state) =
      match assess sample estimate with
      | .ok (.inr timeMs) => if testOnly = false ∧ (world .isPrivileged state).1 = some true then [timeMs] else []
      | _ => [] := by
  cases testOnly with
  | true =>
    have honly : Task.Only Action.LeavesClock (Decision.make sample estimate true method) :=
      (only_make_testOnly sample estimate method).mono fun _ h => h.elim
    rw [settings_of_leavesClock world honly]
    split <;> simp
  | false =>
    unfold Decision.make
    match assess sample estimate with
    | .error failure => rfl
    | .ok (.inl decision) => rfl
    | .ok (.inr timeMs) =>
      simp only [Bool.false_eq_true, if_false, true_and]
      rw [settings_bind, Task.actions_isPrivileged, Task.perform_isPrivileged]
      match world .isPrivileged state with
      | (none, after) => rfl
      | (some false, after) => rfl
      | (some true, after) =>
        simp only [Option.map_some, if_true]
        rw [settings_bind, Task.actions_trySetClock, Task.perform_trySetClock]
        match world (.setClock timeMs) after with
        | (none, later) => rfl
        | (some result, later) => rfl

/-- Up to the report nothing sets the clock, and after the decision nothing does. -/
theorem settings_conclude (config : Config) (method : String) (m : Measurement) (estimate : Estimate) (state : σ) :
    settings (Task.actions world (config.conclude method m estimate) state) =
      match Task.perform world (config.report m estimate) state with
      | (some (.ok ()), after) =>
        settings (Task.actions world (Decision.make m.sample estimate config.testOnly method) after)
      | _ => [] := by
  have hreport := settings_of_leavesClock world
    ((only_report config m estimate).mono fun _ h => h.leavesClock) state
  unfold Config.conclude
  rw [settings_bind, hreport, List.nil_append]
  match Task.perform world (config.report m estimate) state with
  | (none, after) => rfl
  | (some (.error failure), after) => rfl
  | (some (.ok ()), after) =>
    simp only []
    rw [settings_bind]
    match Task.perform world (Decision.make m.sample estimate config.testOnly method) after with
    | (none, later) => exact List.append_nil _
    | (some (.error failure), later) => exact List.append_nil _
    | (some (.ok decision), later) =>
      have hannounce := settings_of_leavesClock world
        ((only_announce method decision).mono fun _ h => h.leavesClock) later
      simp only [hannounce, List.append_nil]

/-- What follows from a measurement sets the clock only on the way to a decision. -/
theorem settings_proceed (config : Config) (method : String) (result : Except Failure Measurement) (state : σ) :
    settings (Task.actions world (config.proceed method result) state) =
      match result with
      | .error _ => []
      | .ok m =>
        match m.sample.estimate with
        | .error _ => []
        | .ok estimate => settings (Task.actions world (config.conclude method m estimate) state) := by
  have hfailure : ∀ (m : Option Measurement) (estimate : Option Estimate) (failure : Failure),
      settings (Task.actions world (Outcome.ofFailure m estimate failure) state) = [] := fun m estimate failure =>
    settings_of_leavesClock world ((only_ofFailure m estimate failure).mono fun _ h => h.leavesClock) state
  unfold Config.proceed
  cases result with
  | error failure => exact hfailure none none failure
  | ok m =>
    simp only []
    cases m.sample.estimate with
    | error fault => exact hfailure (some m) none (.fault fault)
    | ok estimate =>
      simp only []
      rw [settings_bind, Task.actions_attempt, Task.perform_attempt]
      cases Task.perform world (config.conclude method m estimate) state with
      | mk conclusion? after =>
        cases conclusion? with
        | none => exact List.append_nil _
        | some conclusion =>
          have hconclusion := settings_of_leavesClock world
            ((only_ofConclusion m estimate conclusion).mono fun _ h => h.leavesClock) after
          simp only [Option.map_some, hconclusion, List.append_nil]

/-- The decision sets the clock to the time that the gates leave. -/
theorem assess_of_mem_settings_make {sample : Sample} {estimate : Estimate} {testOnly : Bool} {method : String} {state : σ}
    {timeMs : Int} (h : timeMs ∈ settings (Task.actions world (Decision.make sample estimate testOnly method) state)) :
    assess sample estimate = .ok (.inr timeMs) := by
  rw [settings_make] at h
  match hassess : assess sample estimate with
  | .error failure => simp [hassess] at h
  | .ok (.inl decision) => simp [hassess] at h
  | .ok (.inr left) =>
    rw [hassess] at h
    simp only [] at h
    split at h
    · rw [List.mem_singleton.mp h]
    · cases h

/-- So does what follows from a measurement. -/
theorem assess_of_mem_settings_proceed {config : Config} {method : String} {result : Except Failure Measurement} {state : σ}
    {timeMs : Int} (h : timeMs ∈ settings (Task.actions world (config.proceed method result) state)) :
    ∃ m estimate, result = .ok m ∧ m.sample.estimate = .ok estimate ∧ assess m.sample estimate = .ok (.inr timeMs) := by
  rw [settings_proceed] at h
  cases result with
  | error failure => cases h
  | ok m =>
    simp only [] at h
    cases hestimate : m.sample.estimate with
    | error fault => simp [hestimate] at h
    | ok estimate =>
      simp only [hestimate, settings_conclude] at h
      match hreport : Task.perform world (config.report m estimate) state with
      | (none, after) => simp [hreport] at h
      | (some (.error failure), after) => simp [hreport] at h
      | (some (.ok ()), after) =>
        rw [hreport] at h
        exact ⟨m, estimate, rfl, hestimate, assess_of_mem_settings_make h⟩

/-- A decision sets the clock once at most. -/
theorem length_settings_make (world : World σ) (sample : Sample) (estimate : Estimate) (testOnly : Bool)
    (method : String) (state : σ) :
    (settings (Task.actions world (Decision.make sample estimate testOnly method) state)).length ≤ 1 := by
  rw [settings_make]
  repeat' split
  all_goals simp

/-- A run sets the clock once at most after the acquisition. -/
theorem length_settings_proceed (world : World σ) (config : Config) (method : String)
    (result : Except Failure Measurement) (state : σ) :
    (settings (Task.actions world (config.proceed method result) state)).length ≤ 1 := by
  rw [settings_proceed]
  cases result with
  | error failure => exact Nat.zero_le 1
  | ok m =>
    simp only []
    cases m.sample.estimate with
    | error fault => exact Nat.zero_le 1
    | ok estimate =>
      simp only []
      rw [settings_conclude]
      match Task.perform world (config.report m estimate) state with
      | (none, after) => exact Nat.zero_le 1
      | (some (.error failure), after) => exact Nat.zero_le 1
      | (some (.ok ()), after) => exact length_settings_make world m.sample estimate config.testOnly method after

/-- A synchronization sets the clock in what follows from the acquisition. -/
theorem settings_synchronize (hworld : world.Attends) (config : Config) (method : String) (state : σ) :
    settings (Task.actions world (config.synchronize method) state) =
      match Task.perform world config.acquire (config.opened world state) with
      | (none, _) => []
      | (some result, after) => settings (Task.actions world (config.proceed method result) after) := by
  refine (filterMap_actions_synchronize (fun _ hkind => hkind.leavesClock.setting?_eq) hworld config method state).trans ?_
  match Task.perform world config.acquire (config.opened world state) with
  | (none, after) => rfl
  | (some result, after) => rfl

end Sntp
