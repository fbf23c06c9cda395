import Sntp.Proofs.Rehearsal.Course

/-!
# A verbose log shows more and changes nothing

Debug lines are told from others by the tag behind the time (`Effect.isDebugLine_line_iff`). A rehearsal whose logger
leaves them out goes through the same actions as one whose logger writes them, and answers each of them in the same
way (`world_quieted`): it is always the verbose one with the debug lines deleted (`Quiets`). So a synchronization
comes to the same with either logger, with the same effects in the same order (`synchronize_verbosity`).
-/

set_option autoImplicit false

namespace Sntp

/-- Whether an effect is a line that begins, behind the time, with the tag of debug messages. -/
def Effect.IsDebugLine (logger : Logger) (now : Number) : Effect → Prop
  | .line shown => (logger.line now .debug "").toList <+: shown.toList
  | _ => False

/-- The beginning of a line is compared. -/
instance (logger : Logger) (now : Number) : DecidablePred (Effect.IsDebugLine logger now)
  | .line shown => inferInstanceAs (Decidable ((logger.line now .debug "").toList <+: shown.toList))
  | .lookup _ | .openSocket _ | .send _ _ _ | .closeSocket | .command _ _ | .text _ | .setClock _ | .askPrivilege
  | .query _ _ | .sleep _ => .isFalse id

/-- The line of a message is a debug line exactly if the message is one for debugging, whatever its text is. -/
theorem Effect.isDebugLine_line_iff (logger : Logger) (now : Number) (level : Level) (message : String) :
    Effect.IsDebugLine logger now (.line (logger.line now level message)) ↔ level = .debug := by
  simp only [Effect.IsDebugLine, Logger.line, String.toList_append, List.append_assoc, List.prefix_append_right_inj]
  cases logger.color <;> cases level <;> simp [Level.tag, Level.coloredTag]

namespace Scene

/-- What a trace records apart from debug lines, as the logger of a scene writes them. -/
def withoutDebugLines (scene : Scene) (trace : Trace) : Trace :=
  trace.filter fun entry => ¬ entry.2.IsDebugLine scene.logger (scene.logClock.read entry.1)

/-- What two traces record apart from debug lines is what each of them does. -/
theorem withoutDebugLines_append (scene : Scene) (first second : Trace) :
    scene.withoutDebugLines (first ++ second) = scene.withoutDebugLines first ++ scene.withoutDebugLines second :=
  List.filter_append ..

/-- Effects that are no lines are all kept. -/
theorem withoutDebugLines_singleton (scene : Scene) {time : Int} {effect : Effect} (h : ∀ shown, effect ≠ .line shown) :
    scene.withoutDebugLines [(time, effect)] = [(time, effect)] := by
  unfold withoutDebugLines
  cases effect with
  | line shown => exact absurd rfl (h shown)
  | _ => rfl

/-- A scene with a logger that leaves out debug lines, and another trace. -/
def quieted (scene : Scene) (trace : Trace) : Scene :=
  { scene with logger := { scene.logger with verbose := false }, trace }

variable (scene : Scene)

/-- A scene that is quieted writes the same line. -/
theorem writeLine_quieted (trace : Trace) (level : Level) (message : String) :
    (scene.quieted trace).writeLine level message = (scene.writeLine level message).quieted
      (trace ++ [(scene.time, .line (scene.logger.line (scene.logClock.read scene.time) level message))]) := rfl

/-- A command is started in the same way, whatever the trace holds. -/
theorem launch_quieted (trace : Trace) (name : String) (arguments : List String) :
    (scene.quieted trace).launch name arguments = ((scene.launch name arguments).1,
      (scene.launch name arguments).2.quieted (trace ++ [(scene.time, .command name arguments)])) := rfl

/-- A scene that is quieted runs a command in the same way. -/
theorem runCommand_quieted (trace : Trace) (name : String) (arguments : List String) :
    (scene.quieted trace).runCommand name arguments = ((scene.runCommand name arguments).1,
      (scene.runCommand name arguments).2.quieted (trace ++ [(scene.time, .command name arguments)])) := by
  unfold runCommand
  rw [launch_quieted]
  match scene.launch name arguments with
  | (.refused failure, after) => rfl
  | (.endedAtOnce result, after) => rfl
  | (.ends delay result, after) => rfl
  | (.neverEnds, after) => rfl

/-- A scene that is quieted writes to the system log in the same way. -/
theorem writeSystemLog_quieted (trace : Trace) (tag : String) (level : Level) (message : String) :
    (scene.quieted trace).writeSystemLog tag level message = ((scene.writeSystemLog tag level message).1,
      (scene.writeSystemLog tag level message).2.quieted
        (trace ++ [(scene.time, .command systemLogCommand (systemLogArguments tag level message))])) := by
  unfold writeSystemLog
  rw [launch_quieted]
  match scene.launch systemLogCommand (systemLogArguments tag level message) with
  | (.refused failure, after) => rfl
  | (.endedAtOnce result, after) => rfl
  | (.ends delay result, after) => rfl
  | (.neverEnds, after) => rfl

/-- A message that is not for debugging leaves the same with either logger. -/
theorem withoutDebugLines_logged {level : Level} (hlevel : level ≠ .debug) (message : String) :
    scene.withoutDebugLines (scene.logged level message) = scene.logged level message := by
  unfold withoutDebugLines
  rw [List.filter_eq_self]
  intro entry hmem
  have hkind : entry = (scene.time, .line (scene.logger.line (scene.logClock.read scene.time) level message)) ∨
      ∃ arguments, entry = (scene.time, .command systemLogCommand arguments) := by
    unfold logged written at hmem
    cases htag : scene.systemLogTag with
    | none => by_cases hwrites : scene.logger.writes level <;> simp_all
    | some tag =>
      by_cases hwrites : scene.logger.writes level
      · simp only [htag, if_pos hwrites, if_neg hlevel, List.mem_append, List.mem_singleton] at hmem
        exact hmem.imp_right fun hcommand => ⟨_, hcommand⟩
      · simp only [htag, if_neg hwrites, if_neg hlevel, List.nil_append, List.mem_singleton] at hmem
        exact .inr ⟨_, hmem⟩
  rcases hkind with rfl | ⟨arguments, rfl⟩
  · simpa [Effect.isDebugLine_line_iff] using hlevel
  · simp [Effect.IsDebugLine]

/-- Of a debug message nothing is left. -/
theorem withoutDebugLines_logged_debug (message : String) :
    scene.withoutDebugLines (scene.logged .debug message) = [] := by
  unfold withoutDebugLines
  rw [List.filter_eq_nil_iff]
  intro entry hmem
  have hline : entry = (scene.time, .line (scene.logger.line (scene.logClock.read scene.time) .debug message)) := by
    unfold logged written at hmem
    cases htag : scene.systemLogTag <;> by_cases hwrites : scene.logger.writes .debug <;> simp_all
  simp [hline, Effect.isDebugLine_line_iff]

/-- Logging goes the same way with either logger, apart from the debug lines. -/
theorem log_quieted (hverbose : scene.logger.verbose = true) (trace : Trace) (level : Level) (message : String) :
    (scene.quieted trace).log level message = ((scene.log level message).1,
      (scene.log level message).2.quieted (trace ++ scene.withoutDebugLines (scene.logged level message))) := by
  have hwrites : scene.logger.writes level = true := by simp [Logger.writes, hverbose]
  by_cases hdebug : level = .debug
  · subst hdebug
    have hquiet : (scene.quieted trace).logger.writes .debug = false := rfl
    rw [withoutDebugLines_logged_debug, List.append_nil]
    unfold log
    rw [if_pos hwrites, hquiet]
    cases htag : scene.systemLogTag with
    | none => simp [quieted, htag, writeLine, record]
    | some tag => simp [quieted, htag, writeLine, record]
  · have hquiet : (scene.quieted trace).logger.writes level = true := by simp [Logger.writes, hdebug]
    rw [withoutDebugLines_logged scene hdebug]
    unfold log logged written
    rw [if_pos hwrites, if_pos hwrites, if_pos hquiet, writeLine_quieted]
    have htags : (scene.quieted trace).systemLogTag = scene.systemLogTag := rfl
    rw [htags]
    cases scene.systemLogTag with
    | none => rfl
    | some tag =>
      simp only [if_neg hdebug]
      rw [writeSystemLog_quieted, List.append_assoc]
      rfl

end Scene

namespace Rehearsal

/-- A rehearsal with a logger that leaves out debug lines, and another trace. -/
def quieted (r : Rehearsal) (trace : Trace) : Rehearsal := { r with scene := r.scene.quieted trace }

/-- A rehearsal with a logger that writes debug lines, or with one that leaves them out. -/
def withVerbosity (r : Rehearsal) (verbose : Bool) : Rehearsal :=
  { r with scene := { r.scene with logger := { r.scene.logger with verbose } } }

variable {start : Scene} {loud quiet : Rehearsal}

/-- A rehearsal that is quieted sets the clock in the same way. -/
theorem setClock_quieted (r : Rehearsal) (trace : Trace) (ms : Number) :
    ∃ added, (r.setClock ms).2.scene.trace = r.scene.trace ++ added ∧
      (r.quieted trace).setClock ms =
        ((r.setClock ms).1, (r.setClock ms).2.quieted (trace ++ r.scene.withoutDebugLines added)) := by
  have hsetter : (r.quieted trace).setter = r.setter := rfl
  unfold setClock
  rw [hsetter]
  cases r.setter with
  | actor method behaviour =>
    refine ⟨[(r.scene.time, .setClock ms)], rfl, ?_⟩
    rw [Scene.withoutDebugLines_singleton _ fun _ => Effect.noConfusion]
    rfl
  | real setter =>
    simp only []
    cases setter.command ms with
    | error failure =>
      refine ⟨[], (List.append_nil _).symm, ?_⟩
      rw [Scene.withoutDebugLines, List.filter_nil, List.append_nil]
    | ok arguments =>
      refine ⟨[(r.scene.time, .command ClockSetter.dateCommandName arguments)], r.scene.runCommand_trace _ arguments, ?_⟩
      have hrun : (r.quieted trace).scene.runCommand ClockSetter.dateCommandName arguments = _ :=
        r.scene.runCommand_quieted trace _ arguments
      rw [Scene.withoutDebugLines_singleton _ fun _ => Effect.noConfusion]
      exact congrArg (fun run : Option (Except Failure Unit) × Scene =>
        (run.1.map setter.conclude, { r with setter := .real setter, scene := run.2 })) hrun

/-- Every action goes the same way with either logger, apart from the debug lines. -/
theorem world_quieted (action : Action) (r : Rehearsal) (hverbose : r.scene.logger.verbose = true) (trace : Trace) :
    ∃ added, (world action r).2.scene.trace = r.scene.trace ++ added ∧
      world action (r.quieted trace) =
        ((world action r).1, (world action r).2.quieted (trace ++ r.scene.withoutDebugLines added)) := by
  cases action with
  | log level message =>
    refine ⟨r.scene.logged level message, r.scene.log_trace level message, ?_⟩
    have hlog : (r.quieted trace).scene.log level message = _ := r.scene.log_quieted hverbose trace level message
    exact congrArg (fun logged : Except Failure Unit × Scene => (some logged.1, { r with scene := logged.2 })) hlog
  | query server timeoutMs =>
    refine ⟨[(r.scene.time, .query server timeoutMs)], rfl, ?_⟩
    rw [Scene.withoutDebugLines_singleton _ fun _ => Effect.noConfusion]
    rfl
  | sleep ms =>
    refine ⟨[(r.scene.time, .sleep ms)], rfl, ?_⟩
    rw [Scene.withoutDebugLines_singleton _ fun _ => Effect.noConfusion]
    rfl
  | isPrivileged =>
    refine ⟨[(r.scene.time, .askPrivilege)], rfl, ?_⟩
    rw [Scene.withoutDebugLines_singleton _ fun _ => Effect.noConfusion]
    rfl
  | setClock timeMs => exact r.setClock_quieted trace timeMs

/-- Whether one rehearsal is another with the debug lines deleted that this has left since a scene. -/
structure Quiets (start : Scene) (loud quiet : Rehearsal) : Prop where
  verbose : start.logger.verbose = true
  logger_eq : loud.scene.logger = start.logger
  clock_eq : loud.scene.logClock = start.logClock
  quiet_eq : ∃ added, loud.scene.trace = start.trace ++ added ∧
    quiet = loud.quieted (start.trace ++ start.withoutDebugLines added)

/-- It stays so through every action. -/
theorem Quiets.act (h : Quiets start loud quiet) (action : Action) :
    (world action loud).1 = (world action quiet).1 ∧ Quiets start (world action loud).2 (world action quiet).2 := by
  obtain ⟨hverbose, hlogger, hclock, before, htrace, rfl⟩ := h
  obtain ⟨added, hadded, hquiet⟩ := world_quieted action loud (hlogger ▸ hverbose)
    (start.trace ++ start.withoutDebugLines before)
  have hgrows := (keeps_world action loud).scene_grows
  have hsame : loud.scene.withoutDebugLines added = start.withoutDebugLines added := by
    unfold Scene.withoutDebugLines
    rw [hlogger, hclock]
  rw [hquiet]
  refine ⟨rfl, hverbose, hgrows.logger_eq.trans hlogger, hgrows.clock_eq.trans hclock, before ++ added, ?_, ?_⟩
  · rw [hadded, htrace, List.append_assoc]
  · rw [hsame, Scene.withoutDebugLines_append, List.append_assoc]

/-- A synchronization comes to the same with a logger that writes debug lines and with one that leaves them out,
by the same actions. The quiet one leaves what the verbose one leaves, effect by effect at the same times, with the
debug lines deleted, and otherwise the same state. -/
theorem synchronize_verbosity (config : Config) (method : String) (r : Rehearsal) :
    let loud := Task.perform world (config.synchronize method) (r.withVerbosity true)
    let quiet := Task.perform world (config.synchronize method) (r.withVerbosity false)
    quiet.1 = loud.1 ∧
      Task.actions world (config.synchronize method) (r.withVerbosity false) =
        Task.actions world (config.synchronize method) (r.withVerbosity true) ∧
      ∃ added, loud.2.scene.trace = r.scene.trace ++ added ∧
        quiet.2.scene.trace = r.scene.trace ++ r.scene.withoutDebugLines added ∧
        quiet.2 = loud.2.quieted quiet.2.scene.trace := by
  have hstart : Quiets (r.withVerbosity true).scene (r.withVerbosity true) (r.withVerbosity false) := by
    refine ⟨rfl, rfl, rfl, [], (List.append_nil _).symm, ?_⟩
    rw [Scene.withoutDebugLines, List.filter_nil, List.append_nil]
    rfl
  have hany : (config.synchronize method).run.Only fun _ => True := Program.only_true _
  obtain ⟨hanswer, hactions, hquiets⟩ :=
    Program.run_alike (fun action _ _ _ hquiets => hquiets.act action) hany hstart
  obtain ⟨added, htrace, hquiet⟩ := hquiets.quiet_eq
  refine ⟨hanswer.symm, hactions.symm, added, htrace, congrArg (fun later : Rehearsal => later.scene.trace) hquiet, ?_⟩
  exact hquiet.trans (congrArg _ (congrArg (fun later : Rehearsal => later.scene.trace) hquiet).symm)

end Rehearsal

end Sntp
