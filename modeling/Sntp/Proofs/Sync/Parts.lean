import Sntp.Proofs.Sync.Acquisition
import Sntp.Sync.Synchronize

/-!
# The parts of a synchronization

A synchronization gets the time, reports it, decides about the clock and announces the decision. Only
the decision can ask for privilege or set the clock (`only_acquire`, `only_report`, `only_announce`,
`only_ofFailure`), and in test mode it does neither (`only_make_testOnly`). All that a run may do, of
whatever kind, is put together in `only_synchronize`.

`perform_synchronize` cuts a run in two at the end of the acquisition, and `perform_make` says what
the decision does.
-/

set_option autoImplicit false

namespace Sntp

/-- Whether an action belongs to getting the time. -/
def Action.IsAcquisition : Action → Prop
  | .log level _ => level = .debug
  | .query _ _ => True
  | .sleep _ => True
  | .isPrivileged => False
  | .setClock _ => False

/-- Whether an action writes a log message. -/
def Action.IsLog : Action → Prop
  | .log _ _ => True
  | _ => False

/-- Whether an action touches neither the clock nor the question who may set it. -/
def Action.LeavesClock : Action → Prop
  | .isPrivileged => False
  | .setClock _ => False
  | _ => True

/-- Whether an action asks the server or waits. -/
def Action.isQuestion : Action → Bool
  | .query _ _ => true
  | .sleep _ => true
  | _ => false

/-- The acquisition leaves the clock alone. -/
theorem Action.IsAcquisition.leavesClock {action : Action} (h : action.IsAcquisition) : action.LeavesClock := by
  cases action <;> trivial

/-- Messages leave the clock alone. -/
theorem Action.IsLog.leavesClock {action : Action} (h : action.IsLog) : action.LeavesClock := by
  cases action <;> trivial

section Kinds

/-- A measurement is a query, and nothing else. -/
theorem only_measure {kind : Action → Prop} (config : Config) (hquery : kind (.query config.server config.timeoutMs)) :
    Task.Only kind config.measure :=
  (Task.only_query hquery).bind fun exchange => Task.only_ofExcept exchange.measurement

/-- The attempts take debug messages, queries of the one server and the one kind of pause. -/
theorem only_attempts {kind : Action → Prop} (config : Config) (hdebug : ∀ message, kind (.log .debug message))
    (hquery : kind (.query config.server config.timeoutMs)) (hsleep : kind (.sleep retryDelay))
    (last : Option Failure) (number left : Nat) : Task.Only kind (config.attempts last number left) := by
  induction left generalizing last number with
  | zero => exact Task.only_throw (config.exhausted last)
  | succ left ih =>
    rw [config.attempts_succ]
    refine (Task.only_log (hdebug _)).bind fun _ => (only_measure config hquery).attempt.bind fun result => ?_
    cases result with
    | ok m => exact Task.only_pure m
    | error failure =>
      by_cases hretry : failure.isRetryable
      · simp only [hretry, if_true]
        refine (Task.only_log (hdebug _)).bind fun _ => ?_
        by_cases hleft : left = 0
        · simpa [hleft] using ih (some failure) (number + 1)
        · simp only [ne_eq, hleft, not_false_eq_true, if_true]
          exact (Task.only_sleep hsleep).bind fun _ => ih (some failure) (number + 1)
      · simpa [hretry] using Task.only_throw failure

/-- Getting the time takes debug messages, queries and pauses. -/
theorem only_acquire (config : Config) : Task.Only Action.IsAcquisition config.acquire :=
  only_attempts config (fun _ => rfl) trivial trivial none 1 config.retries.toNat

/-- Writing lines logs debug messages, and does nothing else. -/
theorem only_writeLines {kind : Action → Prop} (hdebug : ∀ message, kind (.log .debug message))
    (lines : List (Except Failure String)) : Task.Only kind (writeLines lines) := by
  induction lines with
  | nil => exact Task.only_pure ()
  | cons line rest ih =>
    exact (Task.only_ofExcept line).bind fun _ => (Task.only_log (hdebug _)).bind fun _ => ih

/-- A report takes debug messages and one for information. -/
theorem only_report_of {kind : Action → Prop} (hdebug : ∀ message, kind (.log .debug message))
    (hinfo : ∀ message, kind (.log .info message)) (config : Config) (m : Measurement) (estimate : Estimate) :
    Task.Only kind (config.report m estimate) := by
  refine (only_writeLines hdebug _).bind fun _ => ?_
  by_cases hlog : config.useSystemLog
  · simpa [hlog] using Task.only_log (hinfo _)
  · simpa [hlog] using Task.only_pure ()

/-- Reporting a measurement logs messages, and does nothing else. -/
theorem only_report (config : Config) (m : Measurement) (estimate : Estimate) :
    Task.Only Action.IsLog (config.report m estimate) :=
  only_report_of (fun _ => trivial) (fun _ => trivial) config m estimate

/-- Announcing a decision logs a message, and does nothing else. -/
theorem only_announce (method : String) (decision : Decision) : Task.Only Action.IsLog (decision.announce method) :=
  (Task.only_ofExcept _).bind fun _ => (Task.only_log trivial).bind fun _ => Task.only_pure decision

/-- Ending a run with a failure logs a message, and does nothing else. -/
theorem only_ofFailure (m : Option Measurement) (estimate : Option Estimate) (failure : Failure) :
    Task.Only Action.IsLog (Outcome.ofFailure m estimate failure) := by
  unfold Outcome.ofFailure
  cases failure.diagnosis? with
  | none => exact Task.only_throw failure
  | some diagnosis => exact (Task.only_log trivial).bind fun _ => Task.only_pure _

/-- Ending a run that concluded logs a message, and does nothing else. -/
theorem only_ofConclusion (m : Measurement) (estimate : Estimate) (result : Except Failure Decision) :
    Task.Only Action.IsLog (Outcome.ofConclusion m estimate result) := by
  cases result with
  | error failure => exact only_ofFailure (some m) (some estimate) failure
  | ok decision => exact Task.only_pure _

/-- In test mode the decision performs no action at all. -/
theorem only_make_testOnly (sample : Sample) (estimate : Estimate) (method : String) :
    Task.Only (fun _ => False) (Decision.make sample estimate true method) := by
  unfold Decision.make
  cases assess sample estimate with
  | error failure => exact Task.only_throw failure
  | ok verdict =>
    cases verdict with
    | inl decision => exact Task.only_pure decision
    | inr timeMs => exact Task.only_pure (Decision.testOnly timeMs)

/-- In any mode the decision asks for privilege and sets the clock at most. -/
theorem only_make {kind : Action → Prop} (sample : Sample) (estimate : Estimate) (testOnly : Bool) (method : String)
    (hask : kind .isPrivileged) (hset : ∀ timeMs, kind (.setClock timeMs)) :
    Task.Only kind (Decision.make sample estimate testOnly method) := by
  unfold Decision.make
  cases assess sample estimate with
  | error failure => exact Task.only_throw failure
  | ok verdict =>
    cases verdict with
    | inl decision => exact Task.only_pure decision
    | inr timeMs =>
      cases testOnly with
      | true => exact Task.only_pure (Decision.testOnly timeMs)
      | false =>
        simp only [Bool.false_eq_true, if_false]
        refine (Task.only_isPrivileged hask).bind fun privileged => ?_
        cases privileged with
        | false => exact Task.only_pure (Decision.deny timeMs)
        | true => exact (Task.only_trySetClock (hset timeMs)).bind fun result => Task.only_pure _

/-- What follows from the acquisition writes messages and does what the decision does. -/
theorem only_proceed {kind : Action → Prop} (config : Config) (method : String) (result : Except Failure Measurement)
    (hlog : ∀ action : Action, action.IsLog → kind action)
    (hmake : ∀ sample estimate, Task.Only kind (Decision.make sample estimate config.testOnly method)) :
    Task.Only kind (config.proceed method result) := by
  unfold Config.proceed
  cases result with
  | error failure => exact (only_ofFailure none none failure).mono hlog
  | ok m =>
    simp only []
    cases m.sample.estimate with
    | error fault => exact (only_ofFailure (some m) none (.fault fault)).mono hlog
    | ok estimate =>
      have hconclude : Task.Only kind (config.conclude method m estimate) :=
        ((only_report config m estimate).mono hlog).bind fun _ =>
          (hmake m.sample estimate).bind fun decision => (only_announce method decision).mono hlog
      exact hconclude.attempt.bind fun conclusion => (only_ofConclusion m estimate conclusion).mono hlog

/-- A synchronization writes messages, asks its own server, waits between attempts and does what the decision does. -/
theorem only_synchronize {kind : Action → Prop} (config : Config) (method : String)
    (hlog : ∀ action : Action, action.IsLog → kind action) (hquery : kind (.query config.server config.timeoutMs))
    (hsleep : kind (.sleep retryDelay))
    (hmake : ∀ sample estimate, Task.Only kind (Decision.make sample estimate config.testOnly method)) :
    Task.Only kind (config.synchronize method) := by
  have hdebug (message : String) : kind (.log .debug message) := hlog _ trivial
  have hacquire : Task.Only kind config.acquire :=
    only_attempts config hdebug hquery hsleep none 1 config.retries.toNat
  exact (Task.only_log (hdebug _)).bind fun _ => (Task.only_log (hdebug _)).bind fun _ =>
    hacquire.attempt.bind fun result => only_proceed config method result hlog hmake

/-- In test mode a synchronization neither asks for privilege nor sets the clock. -/
theorem only_synchronize_testOnly (config : Config) (method : String) (hmode : config.testOnly = true) :
    Task.Only Action.LeavesClock (config.synchronize method) := by
  refine only_synchronize config method (fun action h => h.leavesClock) trivial trivial fun sample estimate => ?_
  rw [hmode]
  exact (only_make_testOnly sample estimate method).mono fun _ h => h.elim

/-- What follows from the acquisition asks no questions. -/
theorem only_proceed_unquestioning (config : Config) (method : String) (result : Except Failure Measurement) :
    Task.Only (fun action => action.isQuestion = false) (config.proceed method result) := by
  refine only_proceed config method result (fun action h => ?_) fun sample estimate => ?_
  · cases action <;> first | rfl | exact h.elim
  · exact only_make sample estimate config.testOnly method rfl fun _ => rfl

end Kinds

section Runs

variable {σ : Type} {world : World σ}

/-- The state in which the acquisition begins. -/
def Config.opened (config : Config) (world : World σ) (state : σ) : σ :=
  world.debugged config.settingsLine (world.debugged ("Using server: " ++ config.server) state)

/-- A synchronization is an acquisition, after two debug messages, and what follows from it. -/
theorem perform_synchronize (hworld : world.Attends) (config : Config) (method : String) (state : σ) :
    Task.perform world (config.synchronize method) state =
      match Task.perform world config.acquire (config.opened world state) with
      | (none, after) => (none, after)
      | (some result, after) => Task.perform world (config.proceed method result) after := by
  unfold Config.synchronize
  rw [Task.perform_bind, hworld.perform_debug]
  simp only []
  rw [Task.perform_bind, hworld.perform_debug]
  simp only []
  rw [Task.perform_bind, Task.perform_attempt]
  show _ = match Task.perform world config.acquire (config.opened world state) with
    | (none, after) => (none, after)
    | (some result, after) => Task.perform world (config.proceed method result) after
  unfold Config.opened
  match Task.perform world config.acquire _ with
  | (none, after) => rfl
  | (some result, after) => rfl

/-- The actions of a synchronization are two debug messages, those of the acquisition, and those of
what follows from it. -/
theorem actions_synchronize (hworld : world.Attends) (config : Config) (method : String) (state : σ) :
    Task.actions world (config.synchronize method) state =
      .log .debug ("Using server: " ++ config.server) :: .log .debug config.settingsLine ::
        (Task.actions world config.acquire (config.opened world state) ++
          match Task.perform world config.acquire (config.opened world state) with
          | (none, _) => []
          | (some result, after) => Task.actions world (config.proceed method result) after) := by
  unfold Config.synchronize
  rw [Task.actions_bind, hworld.perform_debug, Task.actions_log]
  simp only []
  rw [Task.actions_bind, hworld.perform_debug, Task.actions_log]
  simp only []
  rw [Task.actions_bind, Task.actions_attempt, Task.perform_attempt]
  show _ :: _ :: (Task.actions world config.acquire (config.opened world state) ++ _) = _
  unfold Config.opened
  match Task.perform world config.acquire _ with
  | (none, after) => rfl
  | (some result, after) => rfl

/-- What is not to be found in an acquisition, a synchronization has from what follows it. -/
theorem filterMap_actions_synchronize {α : Type} {pick : Action → Option α}
    (hpick : ∀ action : Action, action.IsAcquisition → pick action = none) (hworld : world.Attends) (config : Config)
    (method : String) (state : σ) :
    (Task.actions world (config.synchronize method) state).filterMap pick =
      match Task.perform world config.acquire (config.opened world state) with
      | (none, _) => []
      | (some result, after) => (Task.actions world (config.proceed method result) after).filterMap pick := by
  have hdebug : ∀ message, pick (.log .debug message) = none := fun message => hpick _ rfl
  have hacquire : (Task.actions world config.acquire (config.opened world state)).filterMap pick = [] :=
    Program.Only.filterMap_actions hpick (only_acquire config) world _
  rw [actions_synchronize hworld]
  simp only [List.filterMap_cons, hdebug, List.filterMap_append, hacquire, List.nil_append]
  match Task.perform world config.acquire (config.opened world state) with
  | (none, after) => rfl
  | (some result, after) => rfl

/-- The decision performs an action only where the gates leave a time to set: it asks for privilege,
and with it sets the clock. -/
theorem perform_make (sample : Sample) (estimate : Estimate) (testOnly : Bool) (method : String) (state : σ) :
    Task.perform world (Decision.make sample estimate testOnly method) state =
      match assess sample estimate with
      | .error failure => (some (.error failure), state)
      | .ok (.inl decision) => (some (.ok decision), state)
      | .ok (.inr timeMs) =>
        if testOnly then (some (.ok (.testOnly timeMs)), state)
        else
          match world .isPrivileged state with
          | (none, after) => (none, after)
          | (some false, after) => (some (.ok (.deny timeMs)), after)
          | (some true, after) =>
            match world (.setClock timeMs) after with
            | (none, later) => (none, later)
            | (some result, later) => (some (.ok (Decision.afterSetting method timeMs result)), later) := by
  unfold Decision.make
  match assess sample estimate with
  | .error failure => rfl
  | .ok (.inl decision) => rfl
  | .ok (.inr timeMs) =>
    cases testOnly with
    | true => rfl
    | false =>
      simp only [Bool.false_eq_true, if_false]
      rw [Task.perform_bind, Task.perform_isPrivileged]
      match world .isPrivileged state with
      | (none, after) => rfl
      | (some false, after) => rfl
      | (some true, after) =>
        simp only [Option.map_some, if_true]
        rw [Task.perform_bind, Task.perform_trySetClock]
        match world (.setClock timeMs) after with
        | (none, later) => rfl
        | (some result, later) => rfl

end Runs

end Sntp
