import Sntp.Proofs.Rehearsal.Alike
import Sntp.Proofs.Rehearsal.Setting
import Sntp.Proofs.Sync.Failures

/-!
# The system log has no part in a synchronization

A synchronization goes the same way whatever becomes of its writes to the system log, and also without any system
log (`synchronize_mirrored`). Part by part, it does the same with and without one, apart from a line for the system
log that tells about the measurement (`Alike.report`, `Alike.proceed`).
-/

set_option autoImplicit false

namespace Sntp

/-- A configuration that does not use the system log. -/
def Config.withoutSystemLog (config : Config) : Config := { config with useSystemLog := false }

/-- What is estimated of the time that was got, with the measurement that it comes from. -/
def estimated? : Except Failure Measurement → Option (Measurement × Estimate)
  | .error _ => none
  | .ok m =>
    match m.sample.estimate with
    | .error _ => none
    | .ok estimate => some (m, estimate)

/-- What the line for the system log leaves on the console that tells about what was estimated, if anything was. -/
def Scene.writtenEstimate (scene : Scene) (config : Config) : Option (Measurement × Estimate) → Trace
  | none => []
  | some (m, estimate) => scene.written .info (m.systemLogLine config estimate)

namespace Rehearsal

/-- A rehearsal without a system log. -/
def withoutSystemLog (r : Rehearsal) : Rehearsal := { r with scene := { r.scene with systemLogTag := none } }

variable {left right : Trace} {r other : Rehearsal} {config : Config}

/-- What a message leaves on the console is the same at all times of a task that does not touch the clock. -/
theorem written_perform {α : Type} {task : Task α} (honly : task.Only Action.LeavesClock) (r : Rehearsal)
    (level : Level) (message : String) :
    (Task.perform world task r).2.scene.written level message = r.scene.written level message := by
  have hkept : (Task.perform world task r).2.scene.time = r.scene.time := by
    refine Program.run_relates (fun first second : Rehearsal => second.scene.time = first.scene.time) (fun _ => rfl)
      (fun _ _ _ hfirst hsecond => hsecond.trans hfirst) (fun action state hleaves => ?_) honly r
    cases action with
    | log level message => exact state.scene.log_time level message
    | query server timeoutMs => rfl
    | sleep ms => rfl
    | isPrivileged => exact hleaves.elim
    | setClock timeMs => exact hleaves.elim
  have hgrows := (keeps_perform task r).scene_grows
  unfold Scene.written
  rw [hkept, hgrows.logger_eq, hgrows.clock_eq]

/-- The line about the estimate is the same at all times of a task that does not touch the clock. -/
theorem writtenEstimate_perform {α : Type} {task : Task α} (honly : task.Only Action.LeavesClock) (r : Rehearsal)
    (config : Config) (estimated : Option (Measurement × Estimate)) :
    (Task.perform world task r).2.scene.writtenEstimate config estimated = r.scene.writtenEstimate config estimated := by
  cases estimated with
  | none => rfl
  | some found => exact written_perform honly r .info _

/-- A report is the same but for the line for the system log. -/
theorem Alike.report (h : Alike left right r other) (hon : config.useSystemLog = true) (m : Measurement)
    (estimate : Estimate) (hlines : linesWritten (m.lines config estimate) = .ok ()) :
    ∃ common, Course (left ++ common ++ r.scene.written .info (m.systemLogLine config estimate)) (right ++ common)
      (config.report m estimate) (config.withoutSystemLog.report m estimate) r other := by
  have hwrite := h.course (writeLines (m.lines config estimate))
  obtain ⟨common, hleft, hright⟩ := hwrite.alike.added
  have hlog := hwrite.alike.log_or_not .info (m.systemLogLine config estimate)
  rw [hleft, hright, written_perform (only_writeLines (fun _ => trivial) _)] at hlog
  refine ⟨common, hwrite.bind_ok ((perform_writeLines _ h.free).trans (congrArg some hlines)) ?_⟩
  simp only [hon, if_true]
  exact hlog

/-- What follows from the time that was got is the same but for the line for the system log. -/
theorem Alike.proceed (h : Alike left right r other) (hon : config.useSystemLog = true) (method : String)
    (result : Except Failure Measurement)
    (hlines : ∀ m estimate, estimated? result = some (m, estimate) → linesWritten (m.lines config estimate) = .ok ()) :
    ∃ common, Course (left ++ common ++ r.scene.writtenEstimate config (estimated? result)) (right ++ common)
      (config.proceed method result) (config.withoutSystemLog.proceed method result) r other := by
  have hsame : ∀ task : Task Outcome, ∃ common, Course (left ++ common ++ []) (right ++ common) task task r other :=
    fun task => ⟨[], by simpa using h.course task⟩
  cases result with
  | error failure => exact hsame _
  | ok m =>
    cases hestimate : m.sample.estimate with
    | error fault =>
      simp only [estimated?, Config.proceed, hestimate]
      exact hsame _
    | ok estimate =>
      have hfound : estimated? (.ok m) = some (m, estimate) := by simp only [estimated?, hestimate]
      obtain ⟨common, hreport⟩ := h.report hon m estimate (hlines m estimate hfound)
      rw [hfound]
      simp only [Config.proceed, hestimate]
      refine ⟨common, ((hreport.bind fun _ later later' halike => ?_).attempt).bind fun conclusion later later' halike => ?_⟩
      · exact halike.course (Decision.make m.sample estimate config.testOnly method >>= Decision.announce method)
      · exact halike.course (Outcome.ofConclusion m estimate conclusion)

/-- Synchronizing is the same but for the line of the settings and the line for the system log. -/
theorem Alike.synchronize (h : Alike left right r other) (hon : config.useSystemLog = true) (method : String)
    (hlines : ∀ m estimate, estimated? (config.acquired none (r.nextReplies config.retries.toNat)) = some (m, estimate) →
      linesWritten (m.lines config estimate) = .ok ()) :
    ∃ first second, Course
      (left ++ first ++ r.scene.written .debug config.settingsLine ++ second ++
        r.scene.writtenEstimate config (estimated? (config.acquired none (r.nextReplies config.retries.toNat))))
      (right ++ first ++ r.scene.written .debug config.withoutSystemLog.settingsLine ++ second)
      (config.synchronize method) (config.withoutSystemLog.synchronize method) r other := by
  have honly : ∀ message, Task.Only Action.LeavesClock (Task.log .debug message) := fun _ => Task.only_log trivial
  have hacquire : config.withoutSystemLog.acquire = config.acquire := acquire_congr rfl rfl rfl
  have hgreeted := h.course (Task.log .debug ("Using server: " ++ config.server))
  obtain ⟨first, hleft, hright⟩ := hgreeted.alike.added
  have hsettings := hgreeted.alike.debug config.settingsLine config.withoutSystemLog.settingsLine
  rw [hleft, hright, written_perform (honly _), written_perform (honly _)] at hsettings
  have hacquired := hsettings.alike.course (Task.attempt config.acquire)
  obtain ⟨second, hproceed⟩ := hacquired.alike.proceed hon method
    (config.acquired none (r.nextReplies config.retries.toNat)) hlines
  rw [writtenEstimate_perform ((only_acquire config).mono fun _ hkind => hkind.leavesClock).attempt,
    writtenEstimate_perform (honly _), writtenEstimate_perform (honly _)] at hproceed
  refine ⟨first, second, ?_⟩
  unfold Config.synchronize
  rw [hacquire]
  refine hgreeted.bind_ok (perform_log _ _ h.free) (hsettings.bind_ok (perform_log _ _ hgreeted.alike.free) ?_)
  refine hacquired.bind_ok ?_ hproceed
  rw [Task.perform_attempt, perform_acquire]
  rfl

end Rehearsal

end Sntp
