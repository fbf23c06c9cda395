import Sntp.Proofs.Host.Discipline
import Sntp.Proofs.Process.Success
import Sntp.Proofs.Sync.Outcomes

/-!
# Where a run sets the clock on a host

Up to the decision a run leaves the clock untouched (`Untouched`): it starts no command but those that write
to the system log, of which the report of the measurement is the first one. If the decision comes to set
the clock, it runs the command for that (`Untouched.setClock`), and there is nothing left then but to announce
what has become of it (`Untouched.conclude`).
-/

set_option autoImplicit false

namespace Sntp

open ClockSetter (dateCommandName)

/-- What comes of a command that is waited for is told by its next script. -/
theorem Scene.runCommand_fst (scene : Scene) (name : String) (arguments : List String) :
    (scene.runCommand name arguments).1 = ((scene.script name 0).launch name).result? := by
  rw [← scene.launch_fst name arguments]
  unfold Scene.runCommand
  match scene.launch name arguments with
  | (.refused failure, after) => rfl
  | (.endedAtOnce result, after) => rfl
  | (.ends delay result, after) => rfl
  | (.neverEnds, after) => rfl

/-- The decision after the command that sets the clock has ended. -/
def Decision.afterDate (timeMs : Int) : Except Failure Unit → Decision
  | .ok _ => .apply timeMs
  | .error reason => .reject ⟨.clockNotSet dateCommandName, some reason⟩

namespace Host

variable (host : Host) (config : Config) {state : HostState}

/-- How the command that sets the clock ends, if it does. -/
def dateResult? : Option (Except Failure Unit) := ((host.script dateCommandName 0).launch dateCommandName).result?

/-- Whether a state is one in which the clock was not touched yet, and a number of messages have gone to
the system log if it is used. -/
structure Untouched (state : HostState) (messages : Nat) : Prop where
  grows : (host.start config.verbose config.useSystemLog).scene.Grows
    (fun effect => ¬ effect.IsRunOf dateCommandName) state.scene
  writes : Trace.runsOf systemLogCommand state.scene.trace = if config.useSystemLog then messages else 0

/-- Whether a state is one in which the command that sets the clock was run once, after one message to the
system log if that is used. -/
structure Touched (state : HostState) : Prop where
  grows : (host.start config.verbose config.useSystemLog).scene.Grows (fun _ => True) state.scene
  dates : Trace.runsOf dateCommandName state.scene.trace = 1
  writes : Trace.runsOf systemLogCommand state.scene.trace = if config.useSystemLog then 1 else 0

section

variable {host config}

/-- An untouched clock was not set. -/
theorem Untouched.dates {messages : Nat} (h : host.Untouched config state messages) :
    Trace.runsOf dateCommandName state.scene.trace = 0 :=
  h.grows.runsOf_eq fun _ hkind => hkind

/-- The first script of the command that sets the clock is left as long as the clock is untouched. -/
theorem Untouched.script_eq {messages : Nat} (h : host.Untouched config state messages) :
    state.scene.script dateCommandName 0 = host.script dateCommandName 0 := by
  rw [h.grows.script_eq rfl, h.dates]
  rfl

/-- An inquiry leaves the clock untouched, and sends nothing to the system log. -/
theorem Untouched.inquire {messages : Nat} {later : HostState} (h : host.Untouched config state messages)
    (hgrows : state.scene.Grows Effect.IsInquiry later.scene) : host.Untouched config later messages where
  grows := h.grows.trans (hgrows.mono fun _ hkind => hkind.not_isRunOf _)
  writes := by
    rw [hgrows.runsOf_eq fun _ hkind => hkind.not_isRunOf _]
    exact h.writes

/-- A report that is written is one message to the system log, if that is used. -/
theorem Untouched.report {messages : Nat} (h : host.Untouched config state messages) (m : Measurement) (estimate : Estimate)
    (hwritten : (Task.perform host.world (config.report m estimate) state).1 = some (.ok ())) :
    host.Untouched config (Task.perform host.world (config.report m estimate) state).2 (messages + 1) := by
  have hlines : state.scene.Grows Effect.IsInquiry
      (Task.perform host.world (writeLines (m.lines config estimate)) state).2.scene :=
    host.grows_perform state (fun _ state hkind => host.grows_acquisition state hkind)
      (only_writeLines (fun _ => rfl) (m.lines config estimate))
  unfold Config.report at hwritten ⊢
  rw [Task.perform_bind] at hwritten ⊢
  match hrun : Task.perform host.world (writeLines (m.lines config estimate)) state with
  | (none, after) => simp [hrun] at hwritten
  | (some (.error failure), after) => simp [hrun] at hwritten
  | (some (.ok ()), after) =>
    rw [hrun] at hlines
    have hafter := h.inquire hlines
    simp only []
    by_cases hsystem : config.useSystemLog
    · have htag : after.scene.systemLogTag = some systemLogTag := by
        rw [hafter.grows.tag_eq]
        exact if_pos hsystem
      have hlog : after.scene.Grows Effect.IsLogging (after.scene.log .info (m.systemLogLine config estimate)).2 :=
        after.scene.grows_log _ _ fun _ hkind => hkind
      have hwrites := hafter.writes
      rw [if_pos hsystem] at hwrites ⊢
      rw [Task.perform_log]
      refine ⟨hafter.grows.trans (hlog.mono fun _ hkind => hkind.not_isRunOf_date), ?_⟩
      show Trace.runsOf systemLogCommand (after.scene.log .info (m.systemLogLine config estimate)).2.trace = _
      rw [Scene.log_trace, Scene.logged_of_tag _ htag _ (by decide), Trace.runsOf_append, Trace.runsOf_append,
        Scene.runsOf_written, hwrites, if_pos hsystem]
      rfl
    · rw [if_neg hsystem]
      refine ⟨hafter.grows, ?_⟩
      rw [if_neg hsystem]
      have hwrites := hafter.writes
      rw [if_neg hsystem] at hwrites
      exact hwrites

/-- The command that sets the clock touches it. -/
theorem Untouched.runCommand (h : host.Untouched config state 1) (arguments : List String) :
    host.Touched config { state with scene := (state.scene.runCommand dateCommandName arguments).2 } where
  grows := (h.grows.mono fun _ _ => trivial).trans (state.scene.grows_runCommand _ arguments trivial)
  dates := by
    rw [Scene.runCommand_trace, Trace.runsOf_append, h.dates]
    rfl
  writes := by
    rw [Scene.runCommand_trace, Trace.runsOf_append, h.writes]
    rfl

/-- Setting the clock runs its command, where there is one. -/
theorem Untouched.setClock (h : host.Untouched config state 1) (timeMs : Int) :
    (∃ later, (host.world (.setClock timeMs) state) =
        (host.dateResult?.map (ClockSetter.dateCommand default).conclude, later) ∧ host.Touched config later ∧
        (ClockSetter.ofPlatform host.platform).method = dateCommandName) ∨
      ∃ failure, host.world (.setClock timeMs) state = (some (.error failure), state) := by
  show (∃ later, host.setClock state timeMs = _ ∧ _) ∨ ∃ failure, host.setClock state timeMs = _
  unfold Host.setClock
  cases hsetter : ClockSetter.ofPlatform host.platform with
  | unsupported platform => exact .inr ⟨_, rfl⟩
  | dateCommand form =>
    refine .inl ⟨_, ?_, h.runCommand (form.arguments timeMs), rfl⟩
    have hresult := state.scene.runCommand_fst dateCommandName (form.arguments timeMs)
    rw [h.script_eq] at hresult
    simp only [ClockSetter.command]
    rw [hresult]
    rfl

/-- Whatever becomes of a clock setter's failure, it is not that the clock was set. -/
theorem afterSetting_error_ne_apply (method : String) (timeMs other : Int) (failure : Failure) :
    Decision.afterSetting method timeMs (.error failure) ≠ .apply other := by
  unfold Decision.afterSetting
  simp only []
  split <;> exact nofun

/-- The gates by themselves never set the clock. -/
theorem assess_ne_apply {sample : Sample} {estimate : Estimate} {decision : Decision} (timeMs : Int)
    (h : assess sample estimate = .ok (.inl decision)) : decision ≠ .apply timeMs := by
  cases Decision.gated_of_assess h <;> exact nofun

/-- An announcement gives the decision back, if it ends with one. -/
theorem perform_announce_eq {decision given : Decision} {method : String}
    (h : (Task.perform host.world (decision.announce method) state).1 = some (.ok given)) : given = decision := by
  unfold Decision.announce at h
  rw [Task.perform_bind, Task.perform_ofExcept] at h
  cases hline : decision.announcement method with
  | error failure => simp [hline] at h
  | ok line =>
    simp only [hline] at h
    rw [Task.perform_bind, Task.perform_log] at h
    match hlog : host.world (.log line.1 line.2) state with
    | (none, after) => simp [hlog] at h
    | (some (.error failure), after) => simp [hlog] at h
    | (some (.ok ()), after) =>
      simp only [hlog, Task.perform_pure, Option.some.injEq, Except.ok.injEq] at h
      exact h.symm

/-- The decision after the clock was set is the one after its command has ended. -/
theorem afterSetting_conclude (timeMs : Int) (result : Except Failure Unit) :
    Decision.afterSetting dateCommandName timeMs ((ClockSetter.dateCommand default).conclude result) =
      Decision.afterDate timeMs result := by
  cases result with
  | ok done => rfl
  | error reason => rfl

/-- Messages do not run the command that sets the clock. -/
theorem runsOf_date_logs {α : Type} {task : Task α} (htask : Task.Only Action.IsLog task) (state : HostState) :
    Trace.runsOf dateCommandName (Task.perform host.world task state).2.scene.trace =
      Trace.runsOf dateCommandName state.scene.trace := by
  have hgrows : state.scene.Grows Effect.IsLogging (Task.perform host.world task state).2.scene := by
    refine host.grows_perform state (fun action state hkind => ?_) htask
    cases action with
    | log level message => exact state.scene.grows_log level message fun _ hlogging => hlogging
    | _ => exact hkind.elim
  exact hgrows.runsOf_eq fun _ hkind => hkind.not_isRunOf_date

/-- Messages leave an untouched clock as it is. -/
theorem Untouched.logs {messages : Nat} {α : Type} {task : Task α} (h : host.Untouched config state messages)
    (htask : Task.Only Action.IsLog task) :
    Trace.runsOf dateCommandName (Task.perform host.world task state).2.scene.trace = 0 :=
  (runsOf_date_logs htask state).trans h.dates

/-- Whether a task leaves the clock untouched, and does not come to the decision that it was set. -/
def Spares (host : Host) (state : HostState) (task : Task Decision) : Prop :=
  Trace.runsOf dateCommandName (Task.perform host.world task state).2.scene.trace = 0 ∧
    ∀ timeMs, (Task.perform host.world task state).1 ≠ some (.ok (.apply timeMs))

/-- Announcing another decision than to apply a time spares the clock. -/
theorem Untouched.spares_announce {messages : Nat} (h : host.Untouched config state messages) {decision : Decision}
    (method : String) (hdecision : ∀ timeMs, decision ≠ .apply timeMs) : host.Spares state (decision.announce method) :=
  ⟨h.logs (only_announce method decision), fun timeMs hgiven => hdecision timeMs (perform_announce_eq hgiven).symm⟩

/-- A run decides without touching the clock, or it runs the command that sets it and announces what has
become of that. -/
theorem Untouched.conclude (h : host.Untouched config state 0) (m : Measurement) (estimate : Estimate) :
    host.Spares state (config.conclude (ClockSetter.ofPlatform host.platform).method m estimate) ∨
      ∃ timeMs later, assess m.sample estimate = .ok (.inr timeMs) ∧ host.Touched config later ∧
        Task.perform host.world (config.conclude (ClockSetter.ofPlatform host.platform).method m estimate) state =
          match host.dateResult? with
          | none => (none, later)
          | some result =>
            Task.perform host.world ((Decision.afterDate timeMs result).announce dateCommandName) later := by
  have hreport := h.report m estimate
  have hlogs := h.logs (only_report config m estimate)
  unfold Spares Config.conclude
  rw [Task.perform_bind]
  match hrun : Task.perform host.world (config.report m estimate) state with
  | (none, after) =>
    rw [hrun] at hlogs
    exact .inl ⟨hlogs, nofun⟩
  | (some (.error failure), after) =>
    rw [hrun] at hlogs
    exact .inl ⟨hlogs, nofun⟩
  | (some (.ok ()), after) =>
    rw [hrun] at hreport
    have hreported := hreport rfl
    simp only []
    rw [Task.perform_bind, perform_make]
    match hassess : assess m.sample estimate with
    | .error failure => exact .inl ⟨hreported.dates, nofun⟩
    | .ok (.inl decision) =>
      exact .inl (hreported.spares_announce _ fun timeMs => assess_ne_apply timeMs hassess)
    | .ok (.inr timeMs) =>
      by_cases hmode : config.testOnly
      · simp only [if_pos hmode]
        exact .inl (hreported.spares_announce _ fun _ => nofun)
      · simp only [if_neg hmode]
        have hasked : host.world .isPrivileged after = (some (isPrivilegedUser host.euid), after) := rfl
        rw [hasked]
        cases isPrivilegedUser host.euid with
        | false => exact .inl (hreported.spares_announce _ fun _ => nofun)
        | true =>
          simp only []
          -- Here alone the clock is touched.
          rcases hreported.setClock timeMs with ⟨later, hset, htouched, hmethod⟩ | ⟨failure, hset⟩
          · refine .inr ⟨timeMs, later, rfl, htouched, ?_⟩
            rw [hset, hmethod]
            cases host.dateResult? with
            | none => rfl
            | some result =>
              simp only [Option.map_some, afterSetting_conclude]
          · rw [hset]
            exact .inl (hreported.spares_announce _ fun _ => afterSetting_error_ne_apply _ _ _ _)

end

end Host

end Sntp
