import Sntp.Proofs.Scene.Logging
import Sntp.Proofs.Scene.Processes

/-!
# When the system log can be waited for

The end of the system log can be waited for if the agenda holds the end of every pending write
(`Due.flush`). A scene stays so through everything that happens in it, unless a write is started that
never ends (`Due.waitUntil`, `Due.runCommand`, `Due.log`).

In a scene whose books are in order, nothing has been started that never ends exactly if all commands
of its trace end (`AllEnd`), and then a command in the foreground has a result, too.
-/

set_option autoImplicit false

namespace Sntp.Scene

/-- Whether the agenda holds the ends of the pending writes, and no others. -/
def Due (scene : Scene) : Prop :=
  (scene.endings.map fun ending => ending.2.1).Perm scene.systemLog.pending

variable {scene : Scene}

/-- Ends of writes that take place are no longer due. -/
theorem perm_pending_foldl_settle (ended : List (Int × Nat × Except Failure Unit)) {left : List Nat} {log : SystemLog}
    (h : ((ended.map fun ending => ending.2.1) ++ left).Perm log.pending) :
    left.Perm (ended.foldl (fun log ending => log.settle ending.2.1 ending.2.2) log).pending := by
  induction ended generalizing log with
  | nil => exact h
  | cons ending rest ih =>
    have hsettled := h.erase ending.2.1
    rw [List.map_cons, List.cons_append, List.erase_cons_head] at hsettled
    exact ih hsettled

/-- The ends of the pending writes stay due when time passes. -/
theorem Due.waitUntil (h : scene.Due) (time : Int) : (scene.waitUntil time).Due := by
  obtain ⟨ended, hendings, -, hlog⟩ := scene.waitUntil_endings time
  unfold Due at h ⊢
  rw [hendings, List.map_append] at h
  rw [hlog]
  exact perm_pending_foldl_settle ended h

/-- The ends of the pending writes stay due when a command is run. -/
theorem Due.runCommand (h : scene.Due) (name : String) (arguments : List String) :
    (scene.runCommand name arguments).2.Due := by
  have hlaunched : (scene.launch name arguments).2.Due := h
  rcases scene.runCommand_snd name arguments with hsnd | ⟨time, hsnd⟩
  · rw [hsnd]
    exact hlaunched
  · rw [hsnd]
    exact hlaunched.waitUntil time

/-- A write to the system log that ends has its end on the agenda, unless it has ended already. -/
theorem Due.writeSystemLog (h : scene.Due) (tag : String) (level : Level) (message : String)
    (hends : (scene.launch systemLogCommand (systemLogArguments tag level message)).1 ≠ .neverEnds) :
    (scene.writeSystemLog tag level message).2.Due := by
  have hlaunched : (scene.launch systemLogCommand (systemLogArguments tag level message)).2.Due := h
  unfold Scene.writeSystemLog
  match hrun : scene.launch systemLogCommand (systemLogArguments tag level message) with
  | (.refused failure, after) =>
    rw [hrun] at hlaunched
    exact hlaunched
  | (.endedAtOnce result, after) =>
    rw [hrun] at hlaunched
    have hissued := (List.perm_append_singleton after.issued after.systemLog.pending).erase after.issued
    rw [List.erase_cons_head] at hissued
    exact List.Perm.trans hlaunched hissued.symm
  | (.ends delay result, after) =>
    rw [hrun] at hlaunched
    have hentered := (Agenda.perm_enter (after.time + delay) (after.issued, result) after.endings).map
      fun ending => ending.2.1
    have hissued := (List.perm_append_singleton after.issued after.systemLog.pending).symm
    exact hentered.trans ((List.Perm.cons _ hlaunched).trans hissued)
  | (.neverEnds, after) => simp [hrun] at hends

/-- The ends of the pending writes stay due when a message is logged, if its own write ends. -/
theorem Due.log (h : scene.Due) (level : Level) (message : String)
    (hends : scene.systemLogTag ≠ none → level ≠ .debug →
      (scene.script systemLogCommand 0).launch systemLogCommand ≠ .neverEnds) :
    (scene.log level message).2.Due := by
  have hwritten : (if scene.logger.writes level then scene.writeLine level message else scene).Due := by
    split <;> exact h
  have hscript : (if scene.logger.writes level then scene.writeLine level message else scene).script systemLogCommand 0 =
      scene.script systemLogCommand 0 := by
    split <;> rfl
  unfold Scene.log
  simp only []
  cases htag : scene.systemLogTag with
  | none => exact hwritten
  | some tag =>
    by_cases hdebug : level = .debug
    · simp only [if_pos hdebug]
      exact hwritten
    · simp only [if_neg hdebug]
      refine hwritten.writeSystemLog tag level message ?_
      rw [launch_fst, hscript]
      exact hends (by simp [htag]) hdebug

/-- A close returns if the agenda holds the ends of the writes that it waits for. They all have taken place then,
and nothing is under way any more. -/
theorem awaitClose_eq {close : Nat} {log : SystemLog} {awaited : List Nat} (time : Int)
    {endings : Agenda (Nat × Except Failure Unit)} (hawaited : log.closing = [(close, awaited)])
    (hdue : (endings.map fun ending => ending.2.1).Perm awaited) :
    awaitClose close log time endings =
      some ((endings.foldl (fun log ending => log.settle ending.2.1 ending.2.2) log).failure, SystemLog.idle,
        endings.foldl (fun time ending => max time ending.1) time, []) := by
  induction endings generalizing log time awaited with
  | nil =>
    obtain rfl : awaited = [] := hdue.symm.eq_nil
    unfold awaitClose SystemLog.wake?
    simp [hawaited, SystemLog.idle]
  | cons ending rest ih =>
    obtain ⟨due, run, result⟩ := ending
    have hwaits : log.wake? close = none := by
      cases hwoken : log.wake? close with
      | none => rfl
      | some woken =>
        rw [awaited_of_wake? hawaited hwoken] at hdue
        exact absurd hdue.eq_nil (List.cons_ne_nil _ _)
    have hremaining : (log.settle run result).closing = [(close, awaited.erase run)] := by
      simp [SystemLog.settle, hawaited]
    have hrest := hdue.erase run
    rw [List.map_cons, List.erase_cons_head] at hrest
    unfold awaitClose
    rw [hwaits]
    exact ih (max time due) hremaining hrest

/-- Closing the system log lets all ends that are due take place, and gives the failure that is kept then. -/
theorem Due.closeSystemLog_eq (h : scene.Due) (hclosing : scene.systemLog.closing = []) :
    scene.closeSystemLog =
      (some (scene.endings.foldl (fun log ending => log.settle ending.2.1 ending.2.2)
          (scene.systemLog.close scene.issued)).failure,
        { scene with
          issued := scene.issued + 1
          systemLog := SystemLog.idle
          time := scene.endings.foldl (fun time ending => max time ending.1) scene.time
          endings := [] }) := by
  have hclosed : (scene.systemLog.close scene.issued).closing = [(scene.issued, scene.systemLog.pending)] := by
    simp [SystemLog.close, hclosing]
  unfold closeSystemLog
  simp only [awaitClose_eq scene.time hclosed h]

/-- The end of the system log can be waited for. -/
theorem Due.flush (h : scene.Due) (hclosing : scene.systemLog.closing = []) : scene.flush.1 = some () := by
  unfold Scene.flush
  rw [h.closeSystemLog_eq hclosing]
  cases scene.systemLogTag with
  | none => rfl
  | some tag =>
    generalize SystemLog.failure _ = failure?
    cases failure? <;> rfl

/-- Whether every command that a trace records ends at some time. -/
def AllEnd (script : String → Nat → CommandScript) (trace : Trace) : Prop :=
  ∀ launch start, Started script trace launch start → ∃ elapsed, launch.HasEnded elapsed

variable {script : String → Nat → CommandScript} {kind : Effect → Prop} {later : Scene}

/-- What was started stays in a longer trace. -/
theorem Started.append {first : Trace} {launch : Launch} {start : Int} (h : Started script first launch start)
    (added : Trace) : Started script (first ++ added) launch start := by
  obtain ⟨before, name, arguments, after, htrace, hlaunch⟩ := h
  exact ⟨before, name, arguments, after ++ added, by simp [htrace], hlaunch⟩

/-- If all commands end, those end that were started before. -/
theorem Grows.allEnd (h : scene.Grows kind later) (hall : AllEnd script later.trace) : AllEnd script scene.trace := by
  obtain ⟨added, htrace, -, -⟩ := h.added
  intro launch start hstarted
  rw [htrace] at hall
  exact hall launch start (hstarted.append added)

/-- The next command ends if it is among those of a trace that all end. -/
theorem Accounts.ends (h : scene.Accounts script) {name : String} {arguments : List String} {before after : Trace}
    {start : Int} (hruns : Trace.runsOf name before = Trace.runsOf name scene.trace)
    (hall : AllEnd script (before ++ (start, .command name arguments) :: after)) :
    (scene.script name 0).launch name ≠ .neverEnds := by
  intro hnever
  have hstarted : Started script (before ++ (start, .command name arguments) :: after)
      ((scene.script name 0).launch name) start :=
    ⟨before, name, arguments, after, rfl, by rw [h.script_eq, Nat.add_zero, hruns]⟩
  obtain ⟨elapsed, hended⟩ := hall _ _ hstarted
  rw [hnever] at hended
  exact hended

/-- A command that is run has a result if it ends. -/
theorem Accounts.runCommand_isSome (h : scene.Accounts script) {name : String} {arguments : List String}
    (hall : AllEnd script (scene.runCommand name arguments).2.trace) : (scene.runCommand name arguments).1.isSome := by
  rw [scene.runCommand_trace] at hall
  have hends := h.ends rfl hall
  rw [← scene.launch_fst name arguments] at hends
  unfold Scene.runCommand
  match hrun : scene.launch name arguments with
  | (.refused failure, after) => rfl
  | (.endedAtOnce result, after) => rfl
  | (.ends delay result, after) => rfl
  | (.neverEnds, after) => simp [hrun] at hends

/-- Logging keeps the ends of pending writes on the agenda if all commands end. -/
theorem Accounts.due_log (h : scene.Accounts script) (hdue : scene.Due) (level : Level) (message : String)
    (hall : AllEnd script (scene.log level message).2.trace) : (scene.log level message).2.Due := by
  refine hdue.log level message fun htag hlevel => ?_
  obtain ⟨tag, htag⟩ := Option.ne_none_iff_exists'.mp htag
  rw [scene.log_trace, scene.logged_of_tag htag message hlevel, ← List.append_assoc] at hall
  refine h.ends ?_ hall
  rw [Trace.runsOf_append, scene.runsOf_written, Nat.add_zero]

end Sntp.Scene
