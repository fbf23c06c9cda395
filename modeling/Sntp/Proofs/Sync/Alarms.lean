import Sntp.Proofs.Sync.Parts

/-!
# Errors and warnings

A synchronization logs errors and warnings in two places only: where a decision is announced
(`alarms_announce`) and where a failure ends the run (`alarms_ofFailure`). The parts before those log none
(`alarms_synchronize`, `alarms_conclude`).
-/

set_option autoImplicit false

namespace Sntp

/-- The error or the warning that an action logs. -/
def Action.alarm? : Action → Option (Level × String)
  | .log .error message => some (.error, message)
  | .log .warning message => some (.warning, message)
  | _ => none

/-- The errors and warnings that actions log. -/
def alarms (actions : List Action) : List (Level × String) := actions.filterMap Action.alarm?

/-- The error or the warning that a decision is announced with. -/
def Decision.alarm? : Decision → Option (Level × String)
  | .reject diagnosis => some (.error, diagnosis.message)
  | .deny _ => some (.warning, Diagnosis.denied.message)
  | _ => none

/-- The error or the warning that an outcome calls for. -/
def Outcome.alarm? (outcome : Outcome) : Option (Level × String) :=
  match outcome.error with
  | some diagnosis => some (.error, diagnosis.message)
  | none => outcome.decision.bind Decision.alarm?

/-- The acquisition raises no alarm. -/
theorem Action.IsAcquisition.alarm?_eq {action : Action} (h : action.IsAcquisition) : action.alarm? = none := by
  cases action with
  | log level message =>
    obtain rfl : level = .debug := h
    rfl
  | _ => rfl

section

variable {σ : Type} (world : World σ) (state : σ)

/-- A decision is announced in one message, if it can be told. -/
theorem actions_announce (method : String) (decision : Decision) :
    Task.actions world (decision.announce method) state =
      match decision.announcement method with
      | .error _ => []
      | .ok line => [.log line.1 line.2] := by
  unfold Decision.announce
  rw [Task.actions_bind, Task.actions_ofExcept, Task.perform_ofExcept]
  cases decision.announcement method with
  | error failure => rfl
  | ok line => exact Task.actions_log_pure world state line.1 line.2 decision

/-- A decision is announced with the error or the warning that belongs to it, if one does. -/
theorem alarms_announce (method : String) (decision : Decision) :
    alarms (Task.actions world (decision.announce method) state) = decision.alarm?.toList := by
  rw [actions_announce]
  cases decision with
  | skip offsetMs => rfl
  | reject diagnosis => rfl
  | testOnly timeMs =>
    simp only [Decision.announcement]
    cases isoTime timeMs with
    | error failure => rfl
    | ok text => rfl
  | deny timeMs => rfl
  | apply timeMs =>
    simp only [Decision.announcement]
    cases isoTime timeMs with
    | error failure => rfl
    | ok text => rfl

/-- Ending a run with a failure raises the alarm about it, if it can be diagnosed. -/
theorem alarms_ofFailure (m : Option Measurement) (estimate : Option Estimate) (failure : Failure) :
    alarms (Task.actions world (Outcome.ofFailure m estimate failure) state) =
      (failure.diagnosis?.map fun diagnosis => (Level.error, diagnosis.message)).toList := by
  unfold Outcome.ofFailure
  cases failure.diagnosis? with
  | none => rfl
  | some diagnosis => exact congrArg alarms (Task.actions_log_pure world state .error diagnosis.message _)

/-- Ending a run that concluded raises an alarm only if it failed. -/
theorem alarms_ofConclusion (m : Measurement) (estimate : Estimate) (conclusion : Except Failure Decision) :
    alarms (Task.actions world (Outcome.ofConclusion m estimate conclusion) state) =
      match conclusion with
      | .error failure => (failure.diagnosis?.map fun diagnosis => (Level.error, diagnosis.message)).toList
      | .ok _ => [] := by
  cases conclusion with
  | error failure => exact alarms_ofFailure world state (some m) (some estimate) failure
  | ok decision => rfl

/-- Between the measurement and the decision nothing calls for an error or a warning. -/
theorem alarms_conclude (config : Config) (method : String) (m : Measurement) (estimate : Estimate) :
    alarms (Task.actions world (config.conclude method m estimate) state) =
      match Task.perform world (config.report m estimate) state with
      | (some (.ok ()), after) =>
        match Task.perform world (Decision.make m.sample estimate config.testOnly method) after with
        | (some (.ok decision), _) => decision.alarm?.toList
        | _ => []
      | _ => [] := by
  have hreport : Task.Only (fun action => action.alarm? = none) (config.report m estimate) :=
    only_report_of (fun _ => rfl) (fun _ => rfl) config m estimate
  have hmake : Task.Only (fun action => action.alarm? = none) (Decision.make m.sample estimate config.testOnly method) :=
    only_make m.sample estimate config.testOnly method rfl fun _ => rfl
  -- The report takes messages of lower levels, and the decision logs nothing.
  have hquiet : ∀ {α : Type} {task : Task α} (state : σ), Task.Only (fun action => action.alarm? = none) task →
      (Task.actions world task state).filterMap Action.alarm? = [] :=
    fun state honly => Program.Only.filterMap_actions (fun _ h => h) honly world state
  unfold Config.conclude alarms
  rw [Task.filterMap_actions_bind, hquiet state hreport, List.nil_append]
  match Task.perform world (config.report m estimate) state with
  | (none, after) => rfl
  | (some (.error failure), after) => rfl
  | (some (.ok ()), after) =>
    simp only []
    rw [Task.filterMap_actions_bind, hquiet after hmake, List.nil_append]
    match Task.perform world (Decision.make m.sample estimate config.testOnly method) after with
    | (none, later) => rfl
    | (some (.error failure), later) => rfl
    | (some (.ok decision), later) => exact alarms_announce world later method decision

/-- The alarms of a run are those after the acquisition. -/
theorem alarms_synchronize (hworld : world.Attends) (config : Config) (method : String) :
    alarms (Task.actions world (config.synchronize method) state) =
      match Task.perform world config.acquire (config.opened world state) with
      | (none, _) => []
      | (some result, after) => alarms (Task.actions world (config.proceed method result) after) := by
  refine (filterMap_actions_synchronize (fun _ hkind => hkind.alarm?_eq) hworld config method state).trans ?_
  match Task.perform world config.acquire (config.opened world state) with
  | (none, after) => rfl
  | (some result, after) => rfl

end

end Sntp
