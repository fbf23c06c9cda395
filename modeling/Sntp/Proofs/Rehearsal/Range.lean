import Sntp.Proofs.Rehearsal.Outcomes
import Sntp.Proofs.Sync.Failures

/-!
# The times that the clock can be set to

A timestamp tells no time after 2036, the gates ask for a plausible year and for a round trip of ten seconds at most. So
a time to set lies within a few years (`IsSettable`, `isSettable_of_assess`), and with it whatever a run sets the clock
to or says that it would have set it to.

For an estimate that could be formed the gates never fail, the checked sum for the time to set included
(`assess_of_estimate`). What fails after it is the log: an outcome with an error has an estimate only if the system
log's command was refused with that very error (`synchronize_settable`), and then it can have one indeed
(`synchronize_refused`).
-/

set_option autoImplicit false

namespace Sntp

open Number

/-- The times from 2025-01-01T00:00:00.000Z to 2036-02-07T06:28:20.999Z. -/
def IsSettable (timeMs : Int) : Prop := 1735689600000 ≤ timeMs ∧ timeMs ≤ 2085978500999

example : isoTime? (ofInt 1735689600000) = some "2025-01-01T00:00:00.000Z" := by decide +kernel

example : isoTime? (ofInt 2085978500999) = some "2036-02-07T06:28:20.999Z" := by decide +kernel

/-- The gates leave nothing but settable times. -/
theorem isSettable_of_assess {reply : Reply} {m : Measurement} {estimate : Estimate} {timeMs : Int}
    (hmeasured : reply.measurement = .ok m) (hestimated : m.sample.estimate = .ok estimate)
    (hassessed : assess m.sample estimate = .ok (.inr timeMs)) : IsSettable timeMs := by
  obtain ⟨exchange, response, -, hresponse, rfl⟩ := (reply.measurement_ok_iff m).mp hmeasured
  obtain ⟨hlow, hhigh⟩ := Response.transmitMs_bounds hresponse
  obtain ⟨sent, received, remote, -, hestimate⟩ := (Sample.estimate_eq_ok_iff _ estimate).mp hestimated
  obtain ⟨hpasses, rfl⟩ := (assess_eq_inr_iff timeMs rfl hlow hhigh hestimate).mp hassessed
  obtain ⟨year, hyear, hplausible⟩ := hpasses.year_plausible
  rw [utcYear?_ofInt (isSafe_of_told hlow hhigh)] at hyear
  obtain rfl := Option.some.inj hyear
  obtain ⟨hfirst, -⟩ := (isPlausibleYear_iff _).mp hplausible
  have hhalf := tdiv_trip_bounds hpasses.trip_nonneg hpasses.trip_le
  unfold Packet.lastMillis at hhigh
  unfold IsSettable
  omega

/-- For an estimate that could be formed the gates make a decision or leave a time to set. -/
theorem assess_of_estimate {sample : Sample} {estimate : Estimate} (h : sample.estimate = .ok estimate) :
    (∃ decision, assess sample estimate = .ok (.inl decision) ∧ decision.Gated) ∨
      ∃ timeMs, assess sample estimate = .ok (.inr timeMs) := by
  obtain ⟨sent, received, remote, hexact, rfl⟩ := (Sample.estimate_eq_ok_iff sample estimate).mp h
  exact assess_gated _ _ hexact.remote_eq hexact.remote_safe

/-- Once there is an estimate, the gates do not fail. -/
theorem assess_ne_error {sample : Sample} {estimate : Estimate} (h : sample.estimate = .ok estimate) (failure : Failure) :
    assess sample estimate ≠ .error failure := by
  rcases assess_of_estimate h with ⟨decision, hassess, -⟩ | ⟨timeMs, hassess⟩
  · simp [hassess]
  · simp [hassess]

section Decisions

variable {σ : Type} {world : World σ}

/-- The decision comes to something, unless a question for privilege is not answered or the clock setter never ends for
the time that it is given. -/
theorem make_decides {sample : Sample} {estimate : Estimate} (hestimated : sample.estimate = .ok estimate) (testOnly : Bool)
    (method : String) (state : σ) :
    (∃ decision, (Task.perform world (Decision.make sample estimate testOnly method) state).1 = some (.ok decision)) ∨
      (world .isPrivileged state).1 = none ∨
      ∃ timeMs, settings (Task.actions world (Decision.make sample estimate testOnly method) state) = [timeMs] ∧
        (world (.setClock timeMs) (world .isPrivileged state).2).1 = none := by
  rcases assess_of_estimate hestimated with ⟨decision, hassess, -⟩ | ⟨timeMs, hassess⟩
  · rw [perform_make, hassess]
    exact .inl ⟨decision, rfl⟩
  · rcases make_follows world hassess testOnly method state with ⟨decision, hmade, -⟩ | ⟨-, hasked | hset⟩
    · exact .inl ⟨decision, hmade⟩
    · exact .inr (.inl hasked)
    · exact .inr (.inr ⟨timeMs, hset⟩)

end Decisions

/-- Whether the system log of a scene is written with a command that is refused, some time, with a failure. -/
def Scene.RefusesLog (scene : Scene) (failure : Failure) : Prop :=
  scene.systemLogTag ≠ none ∧ ∃ number, scene.script systemLogCommand number = .refused failure

/-- Whether between a scene and a later one the command that writes to the system log was started and refused with a
failure. -/
def Scene.RefusedLog (scene later : Scene) (failure : Failure) : Prop :=
  scene.systemLogTag ≠ none ∧ ∃ (added : Trace) (number : Nat), later.trace = scene.trace ++ added ∧
    number < added.runsOf systemLogCommand ∧ scene.script systemLogCommand number = .refused failure

/-- What was refused once was refused for ever after. -/
theorem Scene.RefusedLog.of_grows {scene later last : Scene} {failure : Failure} {kind : Effect → Prop}
    (h : scene.RefusedLog later failure) (hgrows : later.Grows kind last) : scene.RefusedLog last failure := by
  obtain ⟨htag, added, number, htrace, hnumber, hscript⟩ := h
  obtain ⟨more, hmore, -, -⟩ := hgrows.added
  refine ⟨htag, added ++ more, number, ?_, ?_, hscript⟩
  · rw [hmore, htrace, List.append_assoc]
  · rw [Trace.runsOf_append]
    exact Nat.lt_add_right _ hnumber

namespace Rehearsal

variable {r : Rehearsal} {config : Config} {method : String}

/-- A message that cannot be logged goes to a system log whose command is refused. -/
theorem refusesLog_of_log {later : Rehearsal} (hkeeps : r.Keeps later) {level : Level} {message : String} {failure : Failure}
    (h : (later.scene.log level message).1 = .error failure) : r.scene.RefusesLog failure := by
  obtain ⟨htag, -, hrefused⟩ := (later.scene.log_eq_error_iff level message failure).mp h
  rw [hkeeps.scene_grows.tag_eq] at htag
  obtain ⟨number, hnumber⟩ := hkeeps.scene_grows.exists_script systemLogCommand 0
  exact ⟨htag, number, hnumber.symm.trans hrefused⟩

/-- It is that very start of the command that was refused. -/
theorem refusedLog_of_log {later : Rehearsal} (hkeeps : r.Keeps later) {level : Level} {message : String} {failure : Failure}
    (h : (later.scene.log level message).1 = .error failure) :
    r.scene.RefusedLog (later.scene.log level message).2 failure := by
  obtain ⟨htag, hdebug, hrefused⟩ := (later.scene.log_eq_error_iff level message failure).mp h
  obtain ⟨added, htrace, -, hscript⟩ := hkeeps.scene_grows.added
  refine ⟨hkeeps.scene_grows.tag_eq ▸ htag, added ++ later.scene.logged level message,
    added.runsOf systemLogCommand, ?_, ?_, ?_⟩
  · rw [later.scene.log_trace, htrace, List.append_assoc]
  · rw [Trace.runsOf_append]
    exact Nat.lt_add_of_pos_right (later.scene.runsOf_logged_pos htag hdebug message)
  · rw [← hrefused, hscript, Nat.add_zero]

/-- All failures to log a message are refusals of the system log's command. -/
theorem logFailsOnly_world (r : Rehearsal) :
    world.LogFailsOnly r.Keeps fun later failure => failure = .invalidTime ∨ r.scene.RefusedLog later.scene failure where
  lasts action later hkeeps := hkeeps.trans _ _ _ (later.keeps_world action)
  log level message later hkeeps failure h := by
    rw [Task.perform_log] at h ⊢
    exact .inr (refusedLog_of_log hkeeps (Option.some.inj h))

/-- What a run goes on with after the acquisition is the measurement of a reply, if it is one. -/
theorem exists_proceed (config : Config) (method : String) (r : Rehearsal) :
    ∃ later result, r.Keeps later ∧ (∀ m, result = .ok m → ∃ reply : Reply, reply.measurement = .ok m) ∧
      Task.perform world (config.synchronize method) r = Task.perform world (config.proceed method result) later ∧
      settings (Task.actions world (config.synchronize method) r) =
        settings (Task.actions world (config.proceed method result) later) := by
  obtain ⟨later, hacquire, hkeeps⟩ := perform_opened config r
  refine ⟨later, config.acquired none (r.nextReplies config.retries.toNat), hkeeps, fun m h => ?_, ?_, ?_⟩
  · obtain ⟨reply, -, hmeasured⟩ := Config.exists_mem_of_acquired h
    exact ⟨reply, hmeasured⟩
  · rw [perform_synchronize attends_world, hacquire]
  · rw [settings_synchronize attends_world, hacquire]

/-- After a measurement of a reply no decision comes but those about settable times. -/
theorem isSettable_of_proceed {result : Except Failure Measurement}
    (hresult : ∀ m, result = .ok m → ∃ reply : Reply, reply.measurement = .ok m) {outcome : Outcome}
    (h : (Task.perform world (config.proceed method result) r).1 = some (.ok outcome)) {timeMs : Int}
    (hdecision : outcome.decision = some (.testOnly timeMs) ∨ outcome.decision = some (.deny timeMs) ∨
      outcome.decision = some (.apply timeMs)) : IsSettable timeMs := by
  rcases proceed_eq_ok h with ⟨hnone, -⟩ | ⟨m, estimate, conclusion, hm, hestimated, hconclusion, hends⟩
  · simp [hnone] at hdecision
  cases conclusion with
  | error failure =>
    obtain ⟨hnone, -⟩ := Outcome.of_failed hends
    simp [hnone] at hdecision
  | ok decision =>
    obtain rfl := Except.ok.inj hends
    obtain ⟨after, hmade⟩ := make_of_conclude hconclusion
    rcases gates_or_follows hmade with hassessed | ⟨left, hassessed, hfollows⟩
    · cases Decision.gated_of_assess hassessed <;> simp at hdecision
    · obtain ⟨reply, hmeasured⟩ := hresult m hm
      have hsettable := isSettable_of_assess hmeasured hestimated hassessed
      cases hfollows with
      | notSet own cause => simp at hdecision
      | _ =>
        obtain rfl : left = timeMs := by simpa using hdecision
        exact hsettable

/-- An outcome with an error that has an estimate comes of a log message that was refused. -/
theorem refusedLog_of_proceed {later : Rehearsal} (hkeeps : r.Keeps later) {result : Except Failure Measurement}
    {outcome : Outcome} (h : (Task.perform world (config.proceed method result) later).1 = some (.ok outcome))
    {diagnosis : Diagnosis} (herror : outcome.error = some diagnosis) (hestimate : outcome.estimate ≠ none) :
    ∃ failure, failure.diagnosis? = some diagnosis ∧
      r.scene.RefusedLog (Task.perform world (config.proceed method result) later).2.scene failure := by
  rcases proceed_eq_ok h with ⟨-, hnone⟩ | ⟨m, estimate, conclusion, rfl, hestimated, hconclusion, hends⟩
  · exact absurd hnone hestimate
  cases conclusion with
  | error failure =>
    obtain ⟨-, hdiagnosis, -⟩ := Outcome.of_failed hends
    have hkind := failsOnly_conclude (logFailsOnly_world r) config method (fun _ => .inl rfl) (assess_ne_error hestimated)
      later hkeeps failure hconclusion
    rcases hkind with rfl | hrefused
    · -- A time that cannot be written is no diagnosis, and leaves no outcome.
      cases hdiagnosis.symm.trans herror
    · refine ⟨failure, hdiagnosis.symm.trans herror, ?_⟩
      rw [perform_proceed_of_conclude hestimated hconclusion]
      exact hrefused.of_grows (keeps_perform _ _).scene_grows
  | ok decision =>
    obtain rfl := Except.ok.inj hends
    cases herror

/-- A run sets the clock to settable times, and comes to no other decision about a time. An outcome with an error has
an estimate only if the command of the system log was refused with that error when the run started it. And the decision
never fails for an estimate that could be formed: it comes to something unless the clock setter never ends for the time
that is handed to it. -/
theorem synchronize_settable (config : Config) (method : String) (r : Rehearsal) :
    (∀ timeMs ∈ settings (Task.actions world (config.synchronize method) r), IsSettable timeMs) ∧
      (∀ outcome, (Task.perform world (config.synchronize method) r).1 = some (.ok outcome) →
        (∀ timeMs, outcome.decision = some (.testOnly timeMs) ∨ outcome.decision = some (.deny timeMs) ∨
          outcome.decision = some (.apply timeMs) → IsSettable timeMs) ∧
        ∀ diagnosis, outcome.error = some diagnosis → outcome.estimate ≠ none →
          ∃ failure, failure.diagnosis? = some diagnosis ∧
            r.scene.RefusedLog (Task.perform world (config.synchronize method) r).2.scene failure) ∧
      ∀ sample estimate, sample.estimate = .ok estimate →
        (∃ decision, (Task.perform world (Decision.make sample estimate config.testOnly method) r).1 = some (.ok decision)) ∨
          ∃ timeMs : Int, settings (Task.actions world (Decision.make sample estimate config.testOnly method) r) = [timeMs] ∧
            ((r.record .askPrivilege).setClock timeMs).1 = none := by
  obtain ⟨later, result, hkeeps, hresult, hrun, hsettings⟩ := exists_proceed config method r
  refine ⟨fun timeMs hmem => ?_, fun outcome houtcome => ?_, fun sample estimate hestimated => ?_⟩
  · rw [hsettings] at hmem
    obtain ⟨m, estimate, hm, hestimated, hassessed⟩ := assess_of_mem_settings_proceed hmem
    obtain ⟨reply, hmeasured⟩ := hresult m hm
    exact isSettable_of_assess hmeasured hestimated hassessed
  · rw [hrun] at houtcome ⊢
    exact ⟨fun timeMs => isSettable_of_proceed hresult houtcome, fun diagnosis => refusedLog_of_proceed hkeeps houtcome⟩
  · rcases make_decides hestimated config.testOnly method r with hdecides | hunasked | hunset
    · exact .inl hdecides
    · cases hunasked
    · exact .inr hunset

/-- With a server that is silent at first, the clock is set to a settable time, and without privilege it is said of the
same time that it would have been set. -/
theorem synchronize_settable_silentAtFirst :
    (1750000000050 ∈ settings (Task.actions world (threeAttempts.synchronize "date") (silentAtFirst true)) ∧
      IsSettable 1750000000050) ∧
    ∃ outcome, (Task.perform world (threeAttempts.synchronize "date") (silentAtFirst false)).1 = some (.ok outcome) ∧
      outcome.decision = some (.deny 1750000000050) ∧ IsSettable 1750000000050 := by
  have hset : 1750000000050 ∈ settings (Task.actions world (threeAttempts.synchronize "date") (silentAtFirst true)) := by
    decide +kernel
  have hdenied : (Task.perform world (threeAttempts.synchronize "date") (silentAtFirst false)).1.map
      (fun result => result.toOption.bind (·.decision)) = some (some (.deny 1750000000050)) := by decide +kernel
  refine ⟨⟨hset, (synchronize_settable threeAttempts "date" (silentAtFirst true)).1 _ hset⟩, ?_⟩
  obtain ⟨result, hresult, hdecision⟩ := Option.map_eq_some_iff.mp hdenied
  cases result with
  | error failure => cases hdecision
  | ok outcome =>
    obtain ⟨htimes, -⟩ := (synchronize_settable threeAttempts "date" (silentAtFirst false)).2.1 outcome hresult
    exact ⟨outcome, hresult, hdecision, htimes _ (.inr (.inl hdecision))⟩

/-- A rehearsal in which the first command of the system log is refused with an overflow. -/
def refusedAtFirst : Rehearsal where
  scene := Scene.opening { verbose := false, color := false } (.fixed 0) (some "timesync")
    [(systemLogCommand, [.refused (.fault (.overflow "+" (ofInt 1) (ofInt 2))), .success])]
  privileged := true
  setter := .standIn "date" none
  replies := [.ok lateExchange]

/-- There the outcome has an overflow for an error, and an estimate. -/
theorem synchronize_refused :
    ∃ outcome, (Task.perform world ({ threeAttempts with useSystemLog := true }.synchronize "date") refusedAtFirst).1 =
        some (.ok outcome) ∧
      outcome.error = some ⟨.overflow "+" (ofInt 1) (ofInt 2), none⟩ ∧
      outcome.estimate = some { offsetMs := ofInt 9950, rttMs := ofInt 100 } := by
  have hparts : (Task.perform world ({ threeAttempts with useSystemLog := true }.synchronize "date") refusedAtFirst).1.map
      (fun result => result.toOption.map fun outcome => (outcome.error, outcome.estimate)) =
        some (some (some ⟨.overflow "+" (ofInt 1) (ofInt 2), none⟩,
          some { offsetMs := ofInt 9950, rttMs := ofInt 100 })) := by decide +kernel
  obtain ⟨result, hresult, hoption⟩ := Option.map_eq_some_iff.mp hparts
  cases result with
  | error failure => cases hoption
  | ok outcome =>
    obtain ⟨herror, hestimate⟩ := Prod.ext_iff.mp (Option.some.inj hoption)
    exact ⟨outcome, hresult, herror, hestimate⟩

end Rehearsal

end Sntp
