import Sntp.Proofs.Scene.Growth

/-!
# When logging fails

A message that goes to the system log cannot be logged if the command that writes it is refused, and
this is the only way in which logging fails (`log_eq_error_iff`). In a scene that uses no system log,
or whose system log refuses nothing, every message can be logged (`LogsFreely`), and this stays so
whatever happens in the scene (`Grows.logsFreely`).
-/

set_option autoImplicit false

namespace Sntp

/-- A command is refused exactly if its script says so. -/
theorem CommandScript.launch_eq_refused_iff (script : CommandScript) (command : String) (failure : Failure) :
    script.launch command = .refused failure ↔ script = .refused failure := by
  unfold CommandScript.launch
  split
  case h_1 refusal => simp
  case h_2 result => simp
  case h_3 delay result => simp
  case h_4 events => cases watch command (Agenda.ofList events) <;> simp

namespace Scene

/-- Whether the system log is not used, or never refuses to be written to. -/
def LogsFreely (scene : Scene) : Prop :=
  scene.systemLogTag = none ∨ ∀ number failure, scene.script systemLogCommand number ≠ .refused failure

/-- A scene that logs freely still does so later. -/
theorem Grows.logsFreely {kind : Effect → Prop} {scene later : Scene} (h : scene.Grows kind later)
    (hfree : scene.LogsFreely) : later.LogsFreely := by
  rcases hfree with htag | hscript
  · exact .inl (h.tag_eq.trans htag)
  · refine .inr fun number failure => ?_
    obtain ⟨before, hbefore⟩ := h.exists_script systemLogCommand number
    rw [hbefore]
    exact hscript before failure

variable (scene : Scene)

/-- A write to the system log fails exactly if its command is refused. -/
theorem writeSystemLog_eq_error_iff (tag : String) (level : Level) (message : String) (failure : Failure) :
    (scene.writeSystemLog tag level message).1 = .error failure ↔
      scene.script systemLogCommand 0 = .refused failure := by
  have hlaunch := scene.launch_fst systemLogCommand (systemLogArguments tag level message)
  rw [← CommandScript.launch_eq_refused_iff _ systemLogCommand, ← hlaunch]
  unfold writeSystemLog
  match scene.launch systemLogCommand (systemLogArguments tag level message) with
  | (.refused refusal, after) => simp
  | (.endedAtOnce result, after) => simp
  | (.ends delay result, after) => simp
  | (.neverEnds, after) => simp

/-- A message cannot be logged exactly if it goes to the system log and the command is refused. -/
theorem log_eq_error_iff (level : Level) (message : String) (failure : Failure) :
    (scene.log level message).1 = .error failure ↔
      scene.systemLogTag ≠ none ∧ level ≠ .debug ∧ scene.script systemLogCommand 0 = .refused failure := by
  have hwritten : ∀ (written : Scene) (tag : String), written.scripts = scene.scripts →
      ((written.writeSystemLog tag level message).1 = .error failure ↔
        scene.script systemLogCommand 0 = .refused failure) := by
    intro written tag hscripts
    rw [writeSystemLog_eq_error_iff]
    unfold script
    rw [hscripts]
  unfold log
  cases htag : scene.systemLogTag with
  | none => simp
  | some tag =>
    by_cases hdebug : level = .debug
    · simp [hdebug]
    · simp only [if_neg hdebug]
      by_cases hwrites : scene.logger.writes level
      · rw [if_pos hwrites, hwritten (scene.writeLine level message) tag rfl]
        simp [hdebug]
      · rw [if_neg hwrites, hwritten scene tag rfl]
        simp [hdebug]

/-- What is not mirrored is always logged. -/
theorem log_eq_ok_of_local {level : Level} (message : String) (h : scene.systemLogTag = none ∨ level = .debug) :
    (scene.log level message).1 = .ok () := by
  cases hlog : (scene.log level message).1 with
  | ok => rfl
  | error failure =>
    obtain ⟨htag, hlevel, -⟩ := (scene.log_eq_error_iff level message failure).mp hlog
    rcases h with h | h
    · exact absurd h htag
    · exact absurd h hlevel

/-- A scene that logs freely logs every message. -/
theorem log_eq_ok_of_logsFreely (level : Level) (message : String) (hfree : scene.LogsFreely) :
    (scene.log level message).1 = .ok () := by
  cases hlog : (scene.log level message).1 with
  | ok => rfl
  | error failure =>
    obtain ⟨htag, -, hrefused⟩ := (scene.log_eq_error_iff level message failure).mp hlog
    exact absurd hrefused (hfree.resolve_left htag 0 failure)

/-- The line that a message leaves on the console, if its level is written. -/
def written (level : Level) (message : String) : Trace :=
  if scene.logger.writes level then
    [(scene.time, .line (scene.logger.line (scene.logClock.read scene.time) level message))]
  else []

/-- What logging a message adds to the trace. -/
def logged (level : Level) (message : String) : Trace :=
  scene.written level message ++
    match scene.systemLogTag with
    | some tag =>
      if level = .debug then [] else [(scene.time, .command systemLogCommand (systemLogArguments tag level message))]
    | none => []

/-- A line takes no time. -/
theorem written_time (level : Level) (message : String) :
    (if scene.logger.writes level then scene.writeLine level message else scene).time = scene.time := by
  by_cases hwrites : scene.logger.writes level
  · rw [if_pos hwrites]
    rfl
  · rw [if_neg hwrites]

/-- Logging adds the line and the write to the trace. -/
theorem log_trace (level : Level) (message : String) :
    (scene.log level message).2.trace = scene.trace ++ scene.logged level message := by
  have hwritten : (if scene.logger.writes level then scene.writeLine level message else scene).trace =
      scene.trace ++ scene.written level message := by
    unfold written
    by_cases hwrites : scene.logger.writes level
    · simp only [if_pos hwrites]
      rfl
    · simp only [if_neg hwrites, List.append_nil]
  unfold log logged
  simp only []
  cases scene.systemLogTag with
  | none => simpa using hwritten
  | some tag =>
    by_cases hdebug : level = .debug
    · simpa [hdebug] using hwritten
    · simp only [if_neg hdebug]
      rw [writeSystemLog_trace, hwritten, scene.written_time, List.append_assoc]

/-- A message that goes to the system log starts its command. -/
theorem runsOf_logged_pos (htag : scene.systemLogTag ≠ none) {level : Level} (hdebug : level ≠ .debug) (message : String) :
    0 < (scene.logged level message).runsOf systemLogCommand := by
  obtain ⟨tag, htag⟩ := Option.ne_none_iff_exists'.mp htag
  unfold logged
  rw [Trace.runsOf_append, htag]
  simp [hdebug, Trace.runsOf, Effect.IsRunOf]

/-- No time passes while a message is logged. -/
theorem log_time (level : Level) (message : String) : (scene.log level message).2.time = scene.time := by
  have hwritten := scene.written_time level message
  unfold log
  simp only []
  cases scene.systemLogTag with
  | none => exact hwritten
  | some tag =>
    by_cases hdebug : level = .debug
    · simp only [if_pos hdebug]
      exact hwritten
    · simp only [if_neg hdebug]
      obtain ⟨systemLog, issued, endings, hsnd⟩ :=
        writeSystemLog_snd (if scene.logger.writes level then scene.writeLine level message else scene) tag level message
      rw [hsnd]
      exact hwritten

/-- A line runs no command. -/
theorem runsOf_written (name : String) (level : Level) (message : String) :
    Trace.runsOf name (scene.written level message) = 0 := by
  unfold written
  by_cases hwrites : scene.logger.writes level
  · rw [if_pos hwrites]
    rfl
  · rw [if_neg hwrites]
    rfl

/-- With a system log, every message but a debug message is also written there. -/
theorem logged_of_tag {tag : String} (htag : scene.systemLogTag = some tag) {level : Level} (message : String)
    (hlevel : level ≠ .debug) :
    scene.logged level message = scene.written level message ++
      [(scene.time, .command systemLogCommand (systemLogArguments tag level message))] := by
  unfold logged
  simp only [htag, if_neg hlevel]

end Scene

end Sntp
