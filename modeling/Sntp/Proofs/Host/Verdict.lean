import Sntp.Proofs.Clock.Gates
import Sntp.Proofs.Host.Exit
import Sntp.Proofs.Host.Setting

/-!
# What a run says about the clock

A run that comes to set the clock runs the command for it once, and then announces what has become of it
(`synchronize_eq`). It says that the clock was set exactly if that command ended well, and otherwise that
it could not be set, unless the announcement itself cannot be written to the system log
(`execute_verdict`).

That a command ended well is what the watch over its process takes for success. A process that a signal
has killed closes without any exit code, and counts as one that succeeded (`execute_verdict_killed`).
-/

set_option autoImplicit false

namespace Sntp

open ClockSetter (dateCommandName)

namespace Host

variable (host : Host) (config : Config) {state : HostState}

/-- Whether the system log refuses the second message of a run, which announces the decision. -/
def RefusesAnnouncement : Prop :=
  config.useSystemLog = true ∧ ∃ failure, host.script systemLogCommand 1 = .refused failure

/-- Whether a line about something was written to the console. -/
def Tells (trace : Trace) (level : Level) (message : String) : Prop :=
  ∃ time, (time, Effect.line (Logger.line { verbose := config.verbose, color := host.isTerminal }
    (host.clock.read time) level message)) ∈ trace

section

variable {host config}

/-- The announcement cannot be logged exactly if the system log refuses it. -/
theorem Touched.log_eq_error_iff (h : host.Touched config state) {level : Level} (message : String) (hlevel : level ≠ .debug) :
    (∃ failure, (state.scene.log level message).1 = .error failure) ↔ host.RefusesAnnouncement config := by
  have hscript : config.useSystemLog = true → state.scene.script systemLogCommand 0 = host.script systemLogCommand 1 := by
    intro hsystem
    rw [h.grows.script_eq rfl, h.writes, if_pos hsystem]
    rfl
  have htag : state.scene.systemLogTag ≠ none ↔ config.useSystemLog = true := by
    rw [h.grows.tag_eq]
    show (if config.useSystemLog then some systemLogTag else none) ≠ none ↔ _
    simp
  constructor
  · rintro ⟨failure, hfailed⟩
    obtain ⟨htagged, -, hrefused⟩ := (state.scene.log_eq_error_iff level message failure).mp hfailed
    have hsystem := htag.mp htagged
    exact ⟨hsystem, failure, (hscript hsystem).symm.trans hrefused⟩
  · rintro ⟨hsystem, failure, hrefused⟩
    exact ⟨failure, (state.scene.log_eq_error_iff level message failure).mpr
      ⟨htag.mpr hsystem, hlevel, (hscript hsystem).trans hrefused⟩⟩

/-- The announcement is told on the console in any case. -/
theorem Touched.tells (h : host.Touched config state) {level : Level} (message : String) (hlevel : level ≠ .debug) :
    host.Tells config (state.scene.log level message).2.trace level message := by
  have hlogger : state.scene.logger = { verbose := config.verbose, color := host.isTerminal } := h.grows.logger_eq
  have hclock : state.scene.logClock = .running host.clock := h.grows.clock_eq
  have hwrites : state.scene.logger.writes level = true := by
    cases level <;> first | rfl | exact absurd rfl hlevel
  refine ⟨state.scene.time, ?_⟩
  rw [Scene.log_trace, Scene.logged, Scene.written, if_pos hwrites, hlogger, hclock]
  exact List.mem_append_right _ (List.mem_append_left _ (List.mem_singleton.mpr rfl))

/-- After the clock was touched, the decision is announced unless the system log refuses that. -/
theorem Touched.perform_announce (h : host.Touched config state) {decision : Decision} {level : Level} {message : String}
    (hline : decision.announcement dateCommandName = .ok (level, message)) (hlevel : level ≠ .debug)
    (hrefuses : ¬ host.RefusesAnnouncement config) :
    Task.perform host.world (decision.announce dateCommandName) state =
      (some (.ok decision), { state with scene := (state.scene.log level message).2 }) := by
  have hlogged : (state.scene.log level message).1 = .ok () := by
    cases hlog : (state.scene.log level message).1 with
    | ok done => rfl
    | error failure => exact absurd ((h.log_eq_error_iff message hlevel).mp ⟨failure, hlog⟩) hrefuses
  have hworld : host.world (.log level message) state =
      (some (.ok ()), { state with scene := (state.scene.log level message).2 }) :=
    Prod.ext (congrArg some hlogged) rfl
  unfold Decision.announce
  rw [Task.perform_bind, Task.perform_ofExcept, hline]
  simp only []
  rw [Task.perform_bind, Task.perform_log, hworld]
  rfl

/-- An announcement that the system log refuses comes to no decision. -/
theorem Touched.announce_refused (h : host.Touched config state) {decision : Decision} {level : Level} {message : String}
    (hline : decision.announcement dateCommandName = .ok (level, message)) (hlevel : level ≠ .debug)
    (hrefuses : host.RefusesAnnouncement config) :
    ∃ failure, (Task.perform host.world (decision.announce dateCommandName) state).1 = some (.error failure) := by
  obtain ⟨failure, hfailed⟩ := (h.log_eq_error_iff message hlevel).mpr hrefuses
  have hworld : host.world (.log level message) state =
      (some (.error failure), { state with scene := (state.scene.log level message).2 }) :=
    Prod.ext (congrArg some hfailed) rfl
  refine ⟨failure, ?_⟩
  unfold Decision.announce
  rw [Task.perform_bind, Task.perform_ofExcept, hline]
  simp only []
  rw [Task.perform_bind, Task.perform_log, hworld]

end

/-- The decision that a run ends with, if it ends with one. -/
def decisionOf? : Option (Except Failure Outcome) → Option Decision
  | some (.ok outcome) => outcome.decision
  | _ => none

/-- A run that ends with a failure comes to no decision. -/
theorem decisionOf?_ofFailure (m : Option Measurement) (estimate : Option Estimate) (failure : Failure) :
    decisionOf? (Task.perform host.world (Outcome.ofFailure m estimate failure) state).1 = none := by
  unfold Outcome.ofFailure
  cases failure.diagnosis? with
  | none => rfl
  | some diagnosis =>
    simp only []
    rw [Task.perform_bind, Task.perform_log]
    match host.world (.log .error diagnosis.message) state with
    | (none, after) => rfl
    | (some (.error failure), after) => rfl
    | (some (.ok ()), after) => rfl

/-- The decision that a run on a host comes to with a configuration. -/
def decided : Option Decision := decisionOf? (host.synchronize config).1

/-- A run comes to the decision that it concluded with, if there is one. -/
theorem decisionOf?_ofConclusion (m : Measurement) (estimate : Estimate) (conclusion : Except Failure Decision) :
    decisionOf? (Task.perform host.world (Outcome.ofConclusion m estimate conclusion) state).1 =
      match conclusion with
      | .ok decision => some decision
      | .error _ => none := by
  cases conclusion with
  | ok decision => rfl
  | error failure => exact host.decisionOf?_ofFailure (some m) (some estimate) failure

/-- What a run concluded with decides how it ends. -/
theorem perform_concluded (task : Task Decision) (m : Measurement) (estimate : Estimate) (state : HostState) :
    Task.perform host.world (Task.attempt task >>= Outcome.ofConclusion m estimate) state =
      match Task.perform host.world task state with
      | (none, after) => (none, after)
      | (some conclusion, after) => Task.perform host.world (Outcome.ofConclusion m estimate conclusion) after := by
  rw [Task.perform_bind, Task.perform_attempt]
  match Task.perform host.world task state with
  | (none, after) => rfl
  | (some conclusion, after) => rfl

/-- The clock is untouched when the settings have been told. -/
theorem untouched_opened :
    host.Untouched config (config.opened host.world (host.start config.verbose config.useSystemLog)) 0 := by
  have hstart : host.Untouched config (host.start config.verbose config.useSystemLog) 0 :=
    ⟨.refl _ _, by split <;> rfl⟩
  exact hstart.inquire ((host.opened_scene _ config).mono fun _ hkind => .inr hkind)

/-- A conclusion that leaves the clock untouched is not that it was set, and nothing touches it then. -/
theorem spares_concluded {task : Task Decision} (m : Measurement) (estimate : Estimate) (h : host.Spares state task) :
    Trace.runsOf dateCommandName
        (Task.perform host.world (Task.attempt task >>= Outcome.ofConclusion m estimate) state).2.scene.trace = 0 ∧
      ∀ timeMs, decisionOf? (Task.perform host.world (Task.attempt task >>= Outcome.ofConclusion m estimate) state).1 ≠
        some (.apply timeMs) := by
  obtain ⟨hdates, hspared⟩ := h
  rw [perform_concluded]
  cases hrun : Task.perform host.world task state with
  | mk conclusion? later =>
    rw [hrun] at hdates hspared
    cases conclusion? with
    | none => exact ⟨hdates, nofun⟩
    | some conclusion =>
      have hlogs := @runsOf_date_logs host _ _ (only_ofConclusion m estimate conclusion) later
      refine ⟨hlogs.trans hdates, fun timeMs => ?_⟩
      refine ne_of_eq_of_ne (host.decisionOf?_ofConclusion m estimate conclusion) ?_
      cases conclusion with
      | error failure => exact nofun
      | ok decision =>
        intro hgiven
        obtain rfl : decision = .apply timeMs := Option.some.inj hgiven
        exact hspared timeMs rfl

/-- A run ends without touching the clock, or it runs the command that sets it to a time that can be told,
and announces what has become of that. -/
theorem synchronize_eq :
    (Trace.runsOf dateCommandName (host.synchronize config).2.scene.trace = 0 ∧
        ∀ timeMs, host.decided config ≠ some (.apply timeMs)) ∨
      ∃ timeMs text m estimate later, isoTime (timeMs : Int) = .ok text ∧ host.Touched config later ∧
        host.synchronize config =
          match host.dateResult? with
          | none => (none, later)
          | some result => Task.perform host.world
              (Task.attempt ((Decision.afterDate timeMs result).announce dateCommandName) >>=
                Outcome.ofConclusion m estimate) later := by
  have hsynchronize : host.synchronize config = Task.perform host.world
      (config.synchronize (ClockSetter.ofPlatform host.platform).method)
        (host.start config.verbose config.useSystemLog) := rfl
  have hacquired := (host.untouched_opened config).inquire (host.grows_perform _
    (fun _ state hkind => host.grows_acquisition state hkind) (only_acquire config))
  unfold decided
  rw [hsynchronize, perform_synchronize host.attends_world]
  match hrun : Task.perform host.world config.acquire
      (config.opened host.world (host.start config.verbose config.useSystemLog)) with
  | (none, after) =>
    rw [hrun] at hacquired
    exact .inl ⟨hacquired.dates, nofun⟩
  | (some (.error failure), after) =>
    rw [hrun] at hacquired
    refine .inl ⟨hacquired.logs (only_ofFailure none none failure), fun timeMs => ?_⟩
    exact ne_of_eq_of_ne (host.decisionOf?_ofFailure none none failure) nofun
  | (some (.ok m), after) =>
    rw [hrun] at hacquired
    simp only [Config.proceed]
    cases hestimate : m.sample.estimate with
    | error fault =>
      refine .inl ⟨hacquired.logs (only_ofFailure (some m) none (.fault fault)), fun timeMs => ?_⟩
      exact ne_of_eq_of_ne (host.decisionOf?_ofFailure (some m) none (.fault fault)) nofun
    | ok estimate =>
      simp only []
      rcases hacquired.conclude m estimate with ⟨hdates, hspared⟩ | ⟨timeMs, later, hassess, htouched, hconclude⟩
      · exact .inl (host.spares_concluded m estimate ⟨hdates, hspared⟩)
      · -- The time comes from a response that the gates let pass, so that it can be told.
        obtain ⟨reply, hreply⟩ := config.measurement_of_attempts host.attends_world hrun
        obtain ⟨text, htext⟩ := Reply.isoTime_ok hreply hestimate hassess
        refine .inr ⟨timeMs, text, m, estimate, later, htext, htouched, ?_⟩
        rw [perform_concluded, hconclude]
        cases host.dateResult? with
        | none => rfl
        | some result =>
          simp only []
          rw [perform_concluded]

/-- The level and the text of the message about how the command that sets the clock ended. -/
def dateLine (text : String) : Except Failure Unit → Level × String
  | .ok _ => (.info, "System time set using " ++ dateCommandName ++ " (" ++ text ++ ")")
  | .error reason => (.error, Diagnosis.message ⟨.clockNotSet dateCommandName, some reason⟩)

section

variable {host config}

/-- The announcement tells how the command that sets the clock ended. -/
theorem announcement_afterDate {timeMs : Int} {text : String} (htext : isoTime timeMs = .ok text)
    (result : Except Failure Unit) :
    (Decision.afterDate timeMs result).announcement dateCommandName = .ok (dateLine text result) := by
  cases result with
  | ok done =>
    show (isoTime timeMs).map _ = _
    rw [htext]
    rfl
  | error reason => rfl

/-- How that command ended is told in every run, verbose or not. -/
theorem dateLine_ne_debug (text : String) (result : Except Failure Unit) : (dateLine text result).1 ≠ .debug := by
  cases result <;> exact nofun

/-- A decision that can be announced is what a run ends with. -/
theorem Touched.concluded (h : host.Touched config state) {timeMs : Int} {text : String} (m : Measurement)
    (estimate : Estimate) (result : Except Failure Unit) (htext : isoTime timeMs = .ok text)
    (hrefuses : ¬ host.RefusesAnnouncement config) :
    Task.perform host.world (Task.attempt ((Decision.afterDate timeMs result).announce dateCommandName) >>=
        Outcome.ofConclusion m estimate) state =
      (some (.ok ⟨(Decision.afterDate timeMs result).exitCode, some (Decision.afterDate timeMs result), none, some m,
        some estimate⟩), { state with scene := (state.scene.log (dateLine text result).1 (dateLine text result).2).2 }) := by
  rw [perform_concluded, h.perform_announce (announcement_afterDate htext result) (dateLine_ne_debug text result) hrefuses]
  rfl

/-- There is no decision if the system log refuses its announcement. -/
theorem Touched.concluded_refused (h : host.Touched config state) {timeMs : Int} {text : String} (m : Measurement)
    (estimate : Estimate) (result : Except Failure Unit) (htext : isoTime timeMs = .ok text)
    (hrefuses : host.RefusesAnnouncement config) :
    decisionOf? (Task.perform host.world (Task.attempt ((Decision.afterDate timeMs result).announce dateCommandName) >>=
      Outcome.ofConclusion m estimate) state).1 = none := by
  obtain ⟨failure, hfailed⟩ :=
    h.announce_refused (announcement_afterDate htext result) (dateLine_ne_debug text result) hrefuses
  rw [perform_concluded]
  match hrun : Task.perform host.world ((Decision.afterDate timeMs result).announce dateCommandName) state with
  | (conclusion, after) =>
    rw [hrun] at hfailed
    obtain rfl : conclusion = some (.error failure) := hfailed
    exact host.decisionOf?_ofConclusion m estimate (.error failure)

/-- What comes after the synchronization does not run the command that sets the clock. -/
theorem runsOf_date_runConfig : Trace.runsOf dateCommandName (host.runConfig config).2.trace =
    Trace.runsOf dateCommandName (host.synchronize config).2.scene.trace :=
  (host.grows_runConfig config).runsOf_eq fun _ hkind => hkind.not_isRunOf _

/-- A run that synchronizes exits with the code of its outcome, if all commands end. -/
theorem runConfig_exit {outcome : Outcome} (houtcome : (host.synchronize config).1 = some (.ok outcome))
    (hall : Scene.AllEnd host.script (host.runConfig config).2.trace) :
    (host.runConfig config).1 = some outcome.exitCode := by
  have hexits := host.runConfig_isSome config hall
  unfold runConfig at hexits ⊢
  match hrun : host.synchronize config with
  | (result, state) =>
    rw [hrun] at houtcome
    obtain rfl : result = some (.ok outcome) := houtcome
    simp only [hrun] at hexits ⊢
    unfold finish at hexits ⊢
    match hflush : state.scene.flush with
    | (none, scene) => simp [hflush] at hexits
    | (some (), scene) => rfl

/-- What was told stays in the trace. -/
theorem Tells.of_grows {kind : Effect → Prop} {scene later : Scene} {level : Level} {message : String}
    (h : host.Tells config scene.trace level message) (hgrows : scene.Grows kind later) :
    host.Tells config later.trace level message := by
  obtain ⟨time, hmem⟩ := h
  obtain ⟨added, htrace, -, -⟩ := hgrows.added
  exact ⟨time, by rw [htrace]; exact List.mem_append_left _ hmem⟩

end

/-- A run decides that the clock was set exactly if it ran the command for that, which ended well, and the
decision can be announced. -/
theorem decided_apply_iff :
    (∃ timeMs, host.decided config = some (.apply timeMs)) ↔
      0 < Trace.runsOf dateCommandName (host.runConfig config).2.trace ∧
        (host.script dateCommandName 0).EndsWell ∧ ¬ host.RefusesAnnouncement config := by
  rw [runsOf_date_runConfig, ← CommandScript.result?_eq_ok_iff _ dateCommandName]
  show _ ↔ _ ∧ host.dateResult? = _ ∧ _
  rcases host.synchronize_eq config with ⟨hdates, hspared⟩ | ⟨timeMs, text, m, estimate, later, htext, htouched, heq⟩
  · constructor
    · rintro ⟨timeMs, hdecided⟩
      exact absurd hdecided (hspared timeMs)
    · rintro ⟨hruns, -, -⟩
      omega
  · unfold decided
    rw [heq]
    cases hresult : host.dateResult? with
    | none =>
      constructor
      · rintro ⟨timeMs, hdecided⟩
        cases hdecided
      · rintro ⟨-, hnone, -⟩
        cases hnone
    | some result =>
      simp only []
      by_cases hrefuses : host.RefusesAnnouncement config
      · rw [htouched.concluded_refused m estimate result htext hrefuses]
        constructor
        · rintro ⟨timeMs, hdecided⟩
          cases hdecided
        · rintro ⟨-, -, hannounced⟩
          exact absurd hrefuses hannounced
      · rw [htouched.concluded m estimate result htext hrefuses]
        have hdates := later.scene.runsOf_date_log (dateLine text result).1 (dateLine text result).2
        simp only []
        rw [hdates, htouched.dates]
        cases result with
        | ok done => exact ⟨fun _ => ⟨Nat.one_pos, rfl, hrefuses⟩, fun _ => ⟨timeMs, rfl⟩⟩
        | error reason =>
          constructor
          · rintro ⟨timeMs, hdecided⟩
            cases hdecided
          · rintro ⟨-, hfailed, -⟩
            cases hfailed

/-- A run of which all commands end, and whose decision can be announced, tells how the command that sets the
clock ended, and exits as the decision says. -/
theorem runConfig_tells (hruns : 0 < Trace.runsOf dateCommandName (host.runConfig config).2.trace)
    (hrefuses : ¬ host.RefusesAnnouncement config) (hall : Scene.AllEnd host.script (host.runConfig config).2.trace) :
    ∃ timeMs text result, isoTime (timeMs : Int) = .ok text ∧ host.dateResult? = some result ∧
      host.decided config = some (Decision.afterDate timeMs result) ∧
      host.Tells config (host.runConfig config).2.trace (dateLine text result).1 (dateLine text result).2 ∧
      (host.runConfig config).1 = some (Decision.afterDate timeMs result).exitCode := by
  rcases host.synchronize_eq config with ⟨hdates, -⟩ | ⟨timeMs, text, m, estimate, later, htext, htouched, heq⟩
  · rw [runsOf_date_runConfig, hdates] at hruns
    exact absurd hruns (Nat.lt_irrefl 0)
  · cases hresult : host.dateResult? with
    | none =>
      have hends := host.synchronize_isSome config ((host.grows_runConfig config).allEnd hall)
      rw [heq, hresult] at hends
      cases hends
    | some result =>
      rw [hresult] at heq
      simp only [] at heq
      rw [htouched.concluded m estimate result htext hrefuses] at heq
      refine ⟨timeMs, text, result, htext, rfl, ?_, ?_, ?_⟩
      · unfold decided
        rw [heq]
        rfl
      · have htells := htouched.tells (dateLine text result).2 (dateLine_ne_debug text result)
        have hgrows := host.grows_runConfig config
        rw [heq] at hgrows
        exact htells.of_grows hgrows
      · exact runConfig_exit (congrArg Prod.fst heq) hall

/-- The decision that a run of the program comes to, if it comes to one. -/
def decision? (host : Host) (env : Environment) (arguments : List String) : Option Decision :=
  match Request.ofArguments env arguments with
  | .ok (.run config) => host.decided config
  | _ => none

/-- Arguments that ask for a run have the decision of that run. -/
theorem decision?_eq {env : Environment} {arguments : List String} {config : Config}
    (hconfig : Request.ofArguments env arguments = .ok (.run config)) :
    host.decision? env arguments = host.decided config := by
  unfold decision?
  rw [hconfig]

/-- Without a configuration nothing is run and nothing decided. -/
theorem execute_of_no_config {env : Environment} {arguments : List String}
    (hnone : ∀ config, Request.ofArguments env arguments ≠ .ok (.run config)) :
    Trace.runsOf dateCommandName (host.execute env arguments).2.trace = 0 ∧ host.decision? env arguments = none := by
  unfold execute decision?
  cases hrequest : Request.ofArguments env arguments with
  | error fault => exact ⟨rfl, rfl⟩
  | ok request =>
    cases request with
    | help => exact ⟨rfl, rfl⟩
    | run config => exact absurd hrequest (hnone config)

/-- A run of the program comes to the decision that the clock was set exactly if it ran the command for that, which
ended well, and the announcement is not refused by the system log. If all commands of the run end, it then tells so
and exits with success; if the command did not end well, it tells that the clock could not be set, and why, and exits
with the code for that. -/
theorem execute_verdict (env : Environment) (arguments : List String) :
    ((∃ timeMs, host.decision? env arguments = some (.apply timeMs)) ↔
      0 < Trace.runsOf dateCommandName (host.execute env arguments).2.trace ∧
        (host.script dateCommandName 0).EndsWell ∧
        ∀ config, Request.ofArguments env arguments = .ok (.run config) → ¬ host.RefusesAnnouncement config) ∧
    ∀ config, Request.ofArguments env arguments = .ok (.run config) →
      0 < Trace.runsOf dateCommandName (host.execute env arguments).2.trace → ¬ host.RefusesAnnouncement config →
      Scene.AllEnd host.script (host.execute env arguments).2.trace →
      (∃ timeMs text, (host.script dateCommandName 0).EndsWell ∧
          host.decision? env arguments = some (.apply timeMs) ∧ isoTime (timeMs : Int) = .ok text ∧
          host.Tells config (host.execute env arguments).2.trace .info ("System time set using date (" ++ text ++ ")") ∧
          (host.execute env arguments).1 = some .success) ∨
        ∃ reason, ¬ (host.script dateCommandName 0).EndsWell ∧ host.dateResult? = some (.error reason) ∧
          host.decision? env arguments = some (.reject ⟨.clockNotSet dateCommandName, some reason⟩) ∧
          host.Tells config (host.execute env arguments).2.trace .error
            (Diagnosis.message ⟨.clockNotSet dateCommandName, some reason⟩) ∧
          (host.execute env arguments).1 = some .clockNotSet := by
  have hwell : (host.script dateCommandName 0).EndsWell ↔ host.dateResult? = some (.ok ()) :=
    (CommandScript.result?_eq_ok_iff _ dateCommandName).symm
  by_cases hconfig : ∃ config, Request.ofArguments env arguments = .ok (.run config)
  · obtain ⟨config, hconfig⟩ := hconfig
    have hunique : ∀ other, Request.ofArguments env arguments = .ok (.run other) → other = config := fun other hother =>
      Request.run.inj (Except.ok.inj (hother.symm.trans hconfig))
    rw [host.execute_eq hconfig, host.decision?_eq hconfig]
    constructor
    · rw [host.decided_apply_iff config]
      constructor
      · rintro ⟨hruns, hends, hrefuses⟩
        exact ⟨hruns, hends, fun other hother => hunique other hother ▸ hrefuses⟩
      · rintro ⟨hruns, hends, hrefuses⟩
        exact ⟨hruns, hends, hrefuses config hconfig⟩
    · intro other hother hruns hrefuses hall
      obtain rfl := hunique other hother
      obtain ⟨timeMs, text, result, htext, hresult, hdecided, htells, hexit⟩ :=
        host.runConfig_tells other hruns hrefuses hall
      cases result with
      | ok done => exact .inl ⟨timeMs, text, hwell.mpr hresult, hdecided, htext, htells, hexit⟩
      | error reason =>
        refine .inr ⟨reason, fun hends => ?_, hresult, hdecided, htells, hexit⟩
        have hok := hwell.mp hends
        rw [hresult] at hok
        cases hok
  · -- Nothing is run without a configuration, so that both sides are false.
    have hnone : ∀ config, Request.ofArguments env arguments ≠ .ok (.run config) := fun config h => hconfig ⟨config, h⟩
    obtain ⟨hruns, hdecision⟩ := host.execute_of_no_config hnone
    rw [hruns, hdecision]
    constructor
    · constructor
      · rintro ⟨timeMs, happly⟩
        cases happly
      · rintro ⟨hpositive, -, -⟩
        exact absurd hpositive (Nat.lt_irrefl 0)
    · intro config h
      exact absurd h (hnone config)

/-- A signal that kills the command passes for success: it shows as a close without an exit code. -/
theorem execute_verdict_killed :
    ∃ timeMs text, (late [.process [(5, .closed none)]]).decision? ⟨none, none, none, none⟩ [] = some (.apply timeMs) ∧
      isoTime (timeMs : Int) = .ok text ∧
      (late [.process [(5, .closed none)]]).Tells ⟨"pool.ntp.org", 2000, 3, false, false, false⟩
        ((late [.process [(5, .closed none)]]).execute ⟨none, none, none, none⟩ []).2.trace .info
        ("System time set using date (" ++ text ++ ")") ∧
      ((late [.process [(5, .closed none)]]).execute ⟨none, none, none, none⟩ []).1 = some .success := by
  have hwell : ((late [.process [(5, .closed none)]]).script dateCommandName 0).EndsWell :=
    ⟨5, ⟨none, rfl, .inl rfl⟩, by simp [Agenda.ofList, Agenda.enter, ProcessEvent.isEnding]⟩
  have hexits : ((late [.process [(5, .closed none)]]).runConfig
      ⟨"pool.ntp.org", 2000, 3, false, false, false⟩).1.isSome := by decide +kernel
  have hall := ((late [.process [(5, .closed none)]]).runConfig_exits_iff _).mp hexits
  have hverdict := (execute_verdict (late [.process [(5, .closed none)]]) ⟨none, none, none, none⟩ []).2
    ⟨"pool.ntp.org", 2000, 3, false, false, false⟩ rfl (by decide +kernel) (fun h => absurd h.1 (by decide)) hall
  rcases hverdict with ⟨timeMs, text, -, hdecision, htext, htells, hexit⟩ | ⟨reason, hfailed, -⟩
  · exact ⟨timeMs, text, hdecision, htext, htells, hexit⟩
  · exact absurd hwell hfailed

end Host

end Sntp
