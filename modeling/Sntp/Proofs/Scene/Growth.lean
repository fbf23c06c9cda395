import Sntp.Simulation.Scene

/-!
# How a scene grows

Whatever happens in a scene adds effects to its trace, uses up scripts and lets time pass, and
nothing else: `Scene.Grows kind` says so, and that the added effects are all of one kind. The runs of
a command that the trace records say how many of its scripts have been used (`Grows.script_eq`), so
that the script of a run can be told from the scene in which nothing has happened yet.

Every operation on a scene is an instance (`grows_record` to `grows_flush`), and growths in a row are
one (`Grows.trans`).
-/

set_option autoImplicit false

namespace Sntp

/-- Whether an effect is a start of a command. -/
def Effect.IsRunOf (name : String) : Effect → Prop
  | .command other _ => other = name
  | _ => False

/-- The names of commands are compared. -/
instance (name : String) : DecidablePred (Effect.IsRunOf name)
  | .command other _ => inferInstanceAs (Decidable (other = name))
  | .lookup _ | .openSocket _ | .send _ _ _ | .closeSocket | .line _ | .text _ | .setClock _ | .askPrivilege
  | .query _ _ | .sleep _ => .isFalse id

/-- Whether an effect writes to the console. -/
def Effect.IsConsole : Effect → Prop
  | .line _ => True
  | .text _ => True
  | _ => False

/-- What writes to the console starts no command. -/
theorem Effect.IsConsole.not_isRunOf {effect : Effect} (h : effect.IsConsole) (name : String) :
    ¬ effect.IsRunOf name := by
  cases effect with
  | command other arguments => exact h.elim
  | _ => exact id

/-- Whether an effect writes to the console or to the system log. -/
def Effect.IsLogging (effect : Effect) : Prop := effect.IsConsole ∨ effect.IsRunOf systemLogCommand

/-- The number of starts of a command that a trace records. -/
def Trace.runsOf (name : String) (trace : Trace) : Nat := trace.countP fun entry => entry.2.IsRunOf name

/-- The runs of two traces in a row are those of each of them. -/
@[simp] theorem Trace.runsOf_append (name : String) (first second : Trace) :
    Trace.runsOf name (first ++ second) = Trace.runsOf name first + Trace.runsOf name second := List.countP_append

namespace Scene

/-- The script of a run of a command, a number of runs from now. -/
def script (scene : Scene) (name : String) (number : Nat) : CommandScript :=
  scriptAfter .success ((scene.scripts.lookup name).getD []) number

/-- How a later scene comes from one: by effects of one kind, each start of a command using up a
script, while time passes. -/
structure Grows (kind : Effect → Prop) (scene later : Scene) : Prop where
  tag_eq : later.systemLogTag = scene.systemLogTag
  logger_eq : later.logger = scene.logger
  clock_eq : later.logClock = scene.logClock
  time_le : scene.time ≤ later.time
  added : ∃ added : Trace, later.trace = scene.trace ++ added ∧ (∀ entry ∈ added, kind entry.2) ∧
    ∀ name number, later.script name number = scene.script name (added.runsOf name + number)

section

variable {kind : Effect → Prop} {scene later last : Scene}

/-- A scene continues itself. -/
theorem Grows.refl (kind : Effect → Prop) (scene : Scene) : scene.Grows kind scene where
  tag_eq := rfl
  logger_eq := rfl
  clock_eq := rfl
  time_le := Int.le_refl _
  added := ⟨[], (List.append_nil _).symm, by simp, by simp [Trace.runsOf]⟩

/-- What continues a later scene continues the first one. -/
theorem Grows.trans (first : scene.Grows kind later) (second : later.Grows kind last) : scene.Grows kind last where
  tag_eq := second.tag_eq.trans first.tag_eq
  logger_eq := second.logger_eq.trans first.logger_eq
  clock_eq := second.clock_eq.trans first.clock_eq
  time_le := Int.le_trans first.time_le second.time_le
  added := by
    obtain ⟨added, htrace, hkind, hscript⟩ := first.added
    obtain ⟨added', htrace', hkind', hscript'⟩ := second.added
    refine ⟨added ++ added', ?_, ?_, ?_⟩
    · rw [htrace', htrace, List.append_assoc]
    · intro entry hmem
      rcases List.mem_append.mp hmem with h | h
      · exact hkind entry h
      · exact hkind' entry h
    · intro name number
      rw [hscript', hscript, Trace.runsOf_append, Nat.add_assoc]

/-- Effects of one kind are also of a wider one. -/
theorem Grows.mono {wider : Effect → Prop} (hkind : ∀ effect, kind effect → wider effect)
    (h : scene.Grows kind later) : scene.Grows wider later where
  tag_eq := h.tag_eq
  logger_eq := h.logger_eq
  clock_eq := h.clock_eq
  time_le := h.time_le
  added := by
    obtain ⟨added, htrace, hadded, hscript⟩ := h.added
    exact ⟨added, htrace, fun entry hmem => hkind entry.2 (hadded entry hmem), hscript⟩

/-- A growth is of every kind that all the added effects are of. -/
theorem Grows.of_added {other : Effect → Prop} (h : scene.Grows other later) {added : Trace}
    (htrace : later.trace = scene.trace ++ added) (hadded : ∀ entry ∈ added, kind entry.2) : scene.Grows kind later where
  tag_eq := h.tag_eq
  logger_eq := h.logger_eq
  clock_eq := h.clock_eq
  time_le := h.time_le
  added := by
    obtain ⟨grown, hgrown, -, hscript⟩ := h.added
    obtain rfl : grown = added := List.append_cancel_left (hgrown.symm.trans htrace)
    exact ⟨grown, htrace, hadded, hscript⟩

/-- In a scene that has grown from one without effects, the trace tells which script is next. -/
theorem Grows.script_eq (h : scene.Grows kind later) (hopening : scene.trace = []) (name : String) (number : Nat) :
    later.script name number = scene.script name (Trace.runsOf name later.trace + number) := by
  obtain ⟨added, htrace, -, hscript⟩ := h.added
  rw [hopening, List.nil_append] at htrace
  rw [htrace]
  exact hscript name number

/-- Every script that is still to come was to come before. -/
theorem Grows.exists_script (h : scene.Grows kind later) (name : String) (number : Nat) :
    ∃ before, later.script name number = scene.script name before := by
  obtain ⟨added, -, -, hscript⟩ := h.added
  exact ⟨_, hscript name number⟩

end

/-- Taking away what has one name does not change what is found under another. -/
theorem lookup_filter_of_ne {α : Type} {name other : String} (hne : other ≠ name) (entries : List (String × α)) :
    (entries.filter (·.1 != name)).lookup other = entries.lookup other := by
  induction entries with
  | nil => rfl
  | cons entry rest ih =>
    obtain ⟨key, value⟩ := entry
    by_cases hkey : key = name
    · subst hkey
      have hother : (other == key) = false := by simpa using hne
      simp [List.lookup_cons, hother, ih]
    · simp [List.lookup_cons, hkey, ih]

variable (scene : Scene)

/-- A started command goes by its next script. -/
theorem launch_fst (name : String) (arguments : List String) :
    (scene.launch name arguments).1 = (scene.script name 0).launch name := by
  unfold launch script
  rw [← nextScript_fst]

/-- A start of a command uses up its next script, and no script of another command. -/
theorem launch_script (name : String) (arguments : List String) (other : String) (number : Nat) :
    (scene.launch name arguments).2.script other number =
      scene.script other ((if other = name then 1 else 0) + number) := by
  unfold launch script
  by_cases hother : other = name
  · subst hother
    simp only [List.lookup_cons_self, Option.getD_some, if_true]
    rw [scriptAfter_nextScript, Nat.add_comm]
  · have hbeq : (other == name) = false := by simpa using hother
    simp only [List.lookup_cons, hbeq, if_neg hother, Nat.zero_add]
    rw [lookup_filter_of_ne hother]

/-- A launch is noted as the start of a command. -/
theorem launch_trace (name : String) (arguments : List String) :
    (scene.launch name arguments).2.trace = scene.trace ++ [(scene.time, .command name arguments)] := rfl

variable {kind : Effect → Prop}

/-- Effects that start no command continue a scene. -/
theorem grows_append (added : Trace) (hkind : ∀ entry ∈ added, kind entry.2)
    (hcommand : ∀ entry ∈ added, ∀ name, ¬ entry.2.IsRunOf name) :
    scene.Grows kind { scene with trace := scene.trace ++ added } where
  tag_eq := rfl
  logger_eq := rfl
  clock_eq := rfl
  time_le := Int.le_refl _
  added := by
    refine ⟨added, rfl, hkind, fun name number => ?_⟩
    have hruns : Trace.runsOf name added = 0 := by
      unfold Trace.runsOf
      rw [List.countP_eq_zero]
      intro entry hmem
      simpa using hcommand entry hmem name
    rw [hruns, Nat.zero_add]
    rfl

/-- Noting an effect that starts no command continues a scene. -/
theorem grows_record {effect : Effect} (hkind : kind effect) (hcommand : ∀ name, ¬ effect.IsRunOf name) :
    scene.Grows kind (scene.record effect) := by
  refine scene.grows_append [(scene.time, effect)] ?_ ?_
  · simpa using hkind
  · simpa using hcommand

/-- A line continues a scene. -/
theorem grows_writeLine (level : Level) (message : String) (hkind : ∀ text, kind (.line text)) :
    scene.Grows kind (scene.writeLine level message) :=
  scene.grows_record (hkind _) fun _ h => h

/-- A scene in which only time and the system log are ahead has grown. -/
theorem grows_of_eq {later : Scene} (htag : later.systemLogTag = scene.systemLogTag)
    (hlogger : later.logger = scene.logger) (hclock : later.logClock = scene.logClock)
    (htime : scene.time ≤ later.time) (htrace : later.trace = scene.trace)
    (hscripts : later.scripts = scene.scripts) : scene.Grows kind later where
  tag_eq := htag
  logger_eq := hlogger
  clock_eq := hclock
  time_le := htime
  added := by
    refine ⟨[], by rw [htrace, List.append_nil], by simp, fun name number => ?_⟩
    unfold script
    rw [hscripts]
    simp [Trace.runsOf]

/-- Waiting for a close takes no time back. -/
theorem awaitClose_time_le {close : Nat} {log log' : SystemLog} {time time' : Int} {failure : Option Failure}
    {endings endings' : Agenda (Nat × Except Failure Unit)}
    (h : awaitClose close log time endings = some (failure, log', time', endings')) : time ≤ time' := by
  induction endings generalizing log time with
  | nil =>
    unfold awaitClose at h
    cases hwake : log.wake? close with
    | none => simp [hwake] at h
    | some woken =>
      simp only [hwake, Option.map_some, Option.some.injEq, Prod.mk.injEq] at h
      omega
  | cons ending rest ih =>
    obtain ⟨due, run, result⟩ := ending
    unfold awaitClose at h
    cases hwake : log.wake? close with
    | none =>
      simp only [hwake] at h
      exact Int.le_trans (Int.le_max_left _ _) (ih h)
    | some woken =>
      simp only [hwake, Option.some.injEq, Prod.mk.injEq] at h
      omega

/-- Waiting continues a scene without effects. -/
theorem grows_waitUntil (time : Int) : scene.Grows kind (scene.waitUntil time) :=
  scene.grows_of_eq rfl rfl rfl (Int.le_max_left _ _) rfl rfl

/-- A launch continues a scene with the start of the command. -/
theorem grows_launch (name : String) (arguments : List String) (hkind : kind (.command name arguments)) :
    scene.Grows kind (scene.launch name arguments).2 where
  tag_eq := rfl
  logger_eq := rfl
  clock_eq := rfl
  time_le := Int.le_refl _
  added := by
    refine ⟨[(scene.time, .command name arguments)], rfl, by simpa using hkind, fun other number => ?_⟩
    rw [launch_script]
    by_cases hother : other = name
    · simp [Trace.runsOf, Effect.IsRunOf, hother]
    · simp [Trace.runsOf, Effect.IsRunOf, hother, Ne.symm hother]

/-- A command in the foreground is started, and then waited for at most. -/
theorem runCommand_snd (name : String) (arguments : List String) :
    (scene.runCommand name arguments).2 = (scene.launch name arguments).2 ∨
      ∃ time, (scene.runCommand name arguments).2 = (scene.launch name arguments).2.waitUntil time := by
  unfold runCommand
  match scene.launch name arguments with
  | (.refused failure, after) => exact .inl rfl
  | (.endedAtOnce result, after) => exact .inl rfl
  | (.ends delay result, after) => exact .inr ⟨after.time + delay, rfl⟩
  | (.neverEnds, after) => exact .inl rfl

/-- It leaves its start in the trace, and nothing else. -/
theorem runCommand_trace (name : String) (arguments : List String) :
    (scene.runCommand name arguments).2.trace = scene.trace ++ [(scene.time, .command name arguments)] := by
  have htrace := scene.launch_trace name arguments
  rcases scene.runCommand_snd name arguments with hsnd | ⟨time, hsnd⟩
  · rw [hsnd, htrace]
  · rw [hsnd]
    exact htrace

/-- How it goes depends on its next script and on the time alone. -/
theorem runCommand_alike {scene other : Scene} {name : String} (htime : other.time = scene.time)
    (hscript : other.script name 0 = scene.script name 0) (arguments : List String) :
    (other.runCommand name arguments).1 = (scene.runCommand name arguments).1 ∧
      (other.runCommand name arguments).2.time = (scene.runCommand name arguments).2.time := by
  have hlaunch : (other.launch name arguments).1 = (scene.launch name arguments).1 := by
    rw [launch_fst, launch_fst, hscript]
  have htimes : (other.launch name arguments).2.time = (scene.launch name arguments).2.time := htime
  unfold runCommand
  match hfirst : scene.launch name arguments, hsecond : other.launch name arguments with
  | (launch, after), (launch', after') =>
    rw [hfirst, hsecond] at hlaunch htimes
    obtain rfl : launch' = launch := hlaunch
    cases launch' with
    | refused failure => exact ⟨rfl, htimes⟩
    | endedAtOnce result => exact ⟨rfl, htimes⟩
    | ends delay result => exact ⟨rfl, congrArg (fun time : Int => max time (time + delay)) htimes⟩
    | neverEnds => exact ⟨rfl, htimes⟩

/-- Running a command continues a scene with its start. -/
theorem grows_runCommand (name : String) (arguments : List String) (hkind : kind (.command name arguments)) :
    scene.Grows kind (scene.runCommand name arguments).2 := by
  have hlaunch := scene.grows_launch name arguments hkind
  rcases scene.runCommand_snd name arguments with hsnd | ⟨time, hsnd⟩
  · rw [hsnd]
    exact hlaunch
  · rw [hsnd]
    exact hlaunch.trans (grows_waitUntil _ time)

/-- A write to the system log is started, and then noted at most. -/
theorem writeSystemLog_snd (tag : String) (level : Level) (message : String) :
    ∃ systemLog issued endings, (scene.writeSystemLog tag level message).2 =
      { (scene.launch systemLogCommand (systemLogArguments tag level message)).2 with systemLog, issued, endings } := by
  unfold writeSystemLog
  match scene.launch systemLogCommand (systemLogArguments tag level message) with
  | (.refused failure, after) => exact ⟨_, _, _, rfl⟩
  | (.endedAtOnce result, after) => exact ⟨_, _, _, rfl⟩
  | (.ends delay result, after) => exact ⟨_, _, _, rfl⟩
  | (.neverEnds, after) => exact ⟨_, _, _, rfl⟩

/-- A write to the system log is noted as the start of its command. -/
theorem writeSystemLog_trace (tag : String) (level : Level) (message : String) :
    (scene.writeSystemLog tag level message).2.trace =
      scene.trace ++ [(scene.time, .command systemLogCommand (systemLogArguments tag level message))] := by
  obtain ⟨systemLog, issued, endings, hsnd⟩ := scene.writeSystemLog_snd tag level message
  rw [hsnd]
  exact scene.launch_trace systemLogCommand (systemLogArguments tag level message)

/-- A write to the system log continues a scene with the start of its command. -/
theorem grows_writeSystemLog (tag : String) (level : Level) (message : String)
    (hkind : ∀ arguments, kind (.command systemLogCommand arguments)) :
    scene.Grows kind (scene.writeSystemLog tag level message).2 := by
  have hlaunch := scene.grows_launch systemLogCommand (systemLogArguments tag level message) (hkind _)
  obtain ⟨systemLog, issued, endings, hsnd⟩ := scene.writeSystemLog_snd tag level message
  rw [hsnd]
  exact hlaunch.trans (grows_of_eq _ rfl rfl rfl (Int.le_refl _) rfl rfl)

/-- Closing the system log continues a scene without effects. -/
theorem grows_closeSystemLog : scene.Grows kind scene.closeSystemLog.2 := by
  unfold closeSystemLog
  simp only []
  split
  case h_1 failure systemLog time endings h =>
    exact scene.grows_of_eq rfl rfl rfl (awaitClose_time_le h) rfl rfl
  case h_2 h => exact scene.grows_of_eq rfl rfl rfl (Int.le_refl _) rfl rfl

/-- The line of a message is written to the console, if at all. -/
theorem grows_written (level : Level) (message : String) (hkind : ∀ text, kind (.line text)) :
    scene.Grows kind (if scene.logger.writes level then scene.writeLine level message else scene) := by
  by_cases hlevel : scene.logger.writes level
  · rw [if_pos hlevel]
    exact scene.grows_writeLine level message hkind
  · rw [if_neg hlevel]
    exact .refl kind scene

/-- A message that does not go to the system log is written to the console at most. -/
theorem grows_log_local {level : Level} (message : String) (hlocal : scene.systemLogTag = none ∨ level = .debug)
    (hkind : ∀ text, kind (.line text)) : scene.Grows kind (scene.log level message).2 := by
  have hwritten := scene.grows_written level message hkind
  unfold log
  simp only []
  cases htag : scene.systemLogTag with
  | none => exact hwritten
  | some tag =>
    have hdebug : level = .debug := hlocal.resolve_left (by simp [htag])
    simp only [if_pos hdebug]
    exact hwritten

/-- A debug message continues a scene with a line. -/
theorem grows_log_debug (message : String) (hkind : ∀ text, kind (.line text)) :
    scene.Grows kind (scene.log .debug message).2 := scene.grows_log_local message (.inr rfl) hkind

/-- A message continues a scene with a line and the start of the command that writes to the system log. -/
theorem grows_log (level : Level) (message : String) (hkind : ∀ effect, effect.IsLogging → kind effect) :
    scene.Grows kind (scene.log level message).2 := by
  have hwritten := scene.grows_written level message fun text => hkind (.line text) (.inl trivial)
  unfold log
  simp only []
  cases scene.systemLogTag with
  | none => exact hwritten
  | some tag =>
    by_cases hdebug : level = .debug
    · simp only [if_pos hdebug]
      exact hwritten
    · simp only [if_neg hdebug]
      exact hwritten.trans (grows_writeSystemLog _ tag level message fun arguments => hkind _ (.inr rfl))

/-- A flush continues a scene with a line at most. -/
theorem grows_flush (hkind : ∀ text, kind (.line text)) : scene.Grows kind scene.flush.2 := by
  have hclose : scene.Grows kind scene.closeSystemLog.2 := scene.grows_closeSystemLog
  unfold flush
  cases scene.systemLogTag with
  | none => exact .refl kind scene
  | some tag =>
    simp only []
    split
    case h_1 after h =>
      rw [h] at hclose
      exact hclose
    case h_2 after h =>
      rw [h] at hclose
      exact hclose
    case h_3 failure after h =>
      rw [h] at hclose
      by_cases hempty : failure.isEmpty
      · rw [if_pos hempty]
        exact hclose
      · rw [if_neg hempty]
        exact hclose.trans (after.grows_writeLine _ _ hkind)

end Scene

end Sntp
