import Sntp.Proofs.Rehearsal.Foresight

/-!
# Rehearsals apart from the system log

What the system log has to do with a run is left out of a trace by `Trace.unmirrored`. Two rehearsals are alike
apart from it (`Alike`) if they are in the same state but for how the runs go of the command that writes to the
system log, whether there is one, and what was left in the trace up to some moment. They answer every action in the
same way and stay alike (`Alike.act`), so that a task goes the same way in both (`Alike.course`). Two tasks that
differ in what they log leave rehearsals that differ in no more (`Alike.debug`, `Alike.log_or_not`).
-/

set_option autoImplicit false

namespace Sntp

/-- Whether an action is anything else than to log a message. -/
def Action.isCall : Action → Bool
  | .log _ _ => false
  | _ => true

/-- The actions among others that are not to log a message. -/
def calls (actions : List Action) : List Action := actions.filter Action.isCall

/-- The calls among two lists of actions are those of each of them. -/
theorem calls_append (first second : List Action) : calls (first ++ second) = calls first ++ calls second :=
  List.filter_append ..

namespace Trace

/-- What a trace records apart from the starts of the command that writes to the system log. -/
def unmirrored (trace : Trace) : Trace := trace.filter fun entry => ¬ entry.2.IsRunOf systemLogCommand

/-- What two traces record apart from the system log is what each of them does. -/
@[simp] theorem unmirrored_append (first second : Trace) :
    (first ++ second).unmirrored = first.unmirrored ++ second.unmirrored := List.filter_append ..

/-- The runs of other commands are recorded apart from the system log. -/
theorem runsOf_unmirrored {name : String} (hname : name ≠ systemLogCommand) (trace : Trace) :
    Trace.runsOf name trace.unmirrored = Trace.runsOf name trace := by
  unfold Trace.runsOf unmirrored
  rw [List.countP_filter]
  refine List.countP_congr fun entry _ => ?_
  have hother : entry.2.IsRunOf name → ¬ entry.2.IsRunOf systemLogCommand := by
    intro hrun hlog
    cases heffect : entry.2 with
    | command other arguments =>
      rw [heffect] at hrun hlog
      exact hname (Eq.trans (Eq.symm hrun) hlog)
    | _ =>
      rw [heffect] at hrun
      exact hrun
  simpa using hother

end Trace

namespace Scene

/-- A line on the console has nothing to do with the system log. -/
theorem unmirrored_written (scene : Scene) (level : Level) (message : String) :
    (scene.written level message).unmirrored = scene.written level message := by
  unfold written
  by_cases hwrites : scene.logger.writes level
  · rw [if_pos hwrites]
    rfl
  · rw [if_neg hwrites]
    rfl

/-- Apart from the system log, a message leaves its line on the console. -/
theorem unmirrored_logged (scene : Scene) (level : Level) (message : String) :
    (scene.logged level message).unmirrored = scene.written level message := by
  unfold logged
  rw [Trace.unmirrored_append, unmirrored_written]
  cases scene.systemLogTag with
  | none => exact List.append_nil _
  | some tag =>
    by_cases hdebug : level = .debug
    · simp [hdebug, Trace.unmirrored]
    · simp [hdebug, Trace.unmirrored, Effect.IsRunOf]

/-- A message runs no other command than the one that writes to the system log. -/
theorem runsOf_logged (scene : Scene) {name : String} (hname : name ≠ systemLogCommand) (level : Level)
    (message : String) : Trace.runsOf name (scene.logged level message) = 0 := by
  rw [← Trace.runsOf_unmirrored hname, unmirrored_logged, runsOf_written]

end Scene

namespace Rehearsal

/-- Whether two rehearsals are in the same state apart from the system log, and have left the same in their traces,
apart from the system log, since these held something given. -/
structure Alike (left right : Trace) (r other : Rehearsal) : Prop where
  privileged_eq : other.privileged = r.privileged
  setter_eq : other.setter = r.setter
  replies_eq : other.replies = r.replies
  time_eq : other.scene.time = r.scene.time
  logger_eq : other.scene.logger = r.scene.logger
  clock_eq : other.scene.logClock = r.scene.logClock
  script_eq : ∀ name, name ≠ systemLogCommand → ∀ number, other.scene.script name number = r.scene.script name number
  free : r.scene.LogsFreely
  free' : other.scene.LogsFreely
  added : ∃ added, r.scene.trace.unmirrored = left ++ added ∧ other.scene.trace.unmirrored = right ++ added

variable {left right : Trace} {r other later later' : Rehearsal}

/-- Rehearsals stay alike if they go on with the same, apart from the system log and from lines. -/
theorem Alike.of_keeps (h : Alike left right r other) (hkeeps : r.Keeps later) (hkeeps' : other.Keeps later')
    (htime : later'.scene.time = later.scene.time) (hreplies : later'.replies = later.replies)
    {added added' : Trace} (htrace : later.scene.trace = r.scene.trace ++ added)
    (htrace' : later'.scene.trace = other.scene.trace ++ added')
    (hruns : ∀ name, name ≠ systemLogCommand → Trace.runsOf name added' = Trace.runsOf name added)
    {left' right' : Trace}
    (hadded : ∃ added, later.scene.trace.unmirrored = left' ++ added ∧ later'.scene.trace.unmirrored = right' ++ added) :
    Alike left' right' later later' where
  privileged_eq := by rw [hkeeps'.privileged_eq, h.privileged_eq, hkeeps.privileged_eq]
  setter_eq := by rw [hkeeps'.setter_eq, h.setter_eq, hkeeps.setter_eq]
  replies_eq := hreplies
  time_eq := htime
  logger_eq := by rw [hkeeps'.scene_grows.logger_eq, h.logger_eq, hkeeps.scene_grows.logger_eq]
  clock_eq := by rw [hkeeps'.scene_grows.clock_eq, h.clock_eq, hkeeps.scene_grows.clock_eq]
  script_eq name hname number := by
    obtain ⟨grown, hgrown, -, hscript⟩ := hkeeps.scene_grows.added
    obtain ⟨grown', hgrown', -, hscript'⟩ := hkeeps'.scene_grows.added
    obtain rfl := List.append_cancel_left (hgrown.symm.trans htrace)
    obtain rfl := List.append_cancel_left (hgrown'.symm.trans htrace')
    rw [hscript, hscript', hruns name hname, h.script_eq name hname]
  free := hkeeps.scene_grows.logsFreely h.free
  free' := hkeeps'.scene_grows.logsFreely h.free'
  added := hadded

/-- They stay alike if they go on with the same apart from the system log. -/
theorem Alike.of_added (h : Alike left right r other) (hkeeps : r.Keeps later) (hkeeps' : other.Keeps later')
    (htime : later'.scene.time = later.scene.time) (hreplies : later'.replies = later.replies)
    {added added' : Trace} (htrace : later.scene.trace = r.scene.trace ++ added)
    (htrace' : later'.scene.trace = other.scene.trace ++ added') (hadded : added'.unmirrored = added.unmirrored) :
    Alike left right later later' := by
  refine h.of_keeps hkeeps hkeeps' htime hreplies htrace htrace' (fun name hname => ?_) ?_
  · rw [← Trace.runsOf_unmirrored hname, hadded, Trace.runsOf_unmirrored hname]
  · obtain ⟨before, hleft, hright⟩ := h.added
    refine ⟨before ++ added.unmirrored, ?_, ?_⟩
    · rw [htrace, Trace.unmirrored_append, hleft, List.append_assoc]
    · rw [htrace', Trace.unmirrored_append, hright, hadded, List.append_assoc]

/-- Since now they have left nothing. -/
theorem Alike.now (h : Alike left right r other) :
    Alike r.scene.trace.unmirrored other.scene.trace.unmirrored r other :=
  { h with added := ⟨[], (List.append_nil _).symm, (List.append_nil _).symm⟩ }

/-- Rehearsals that are alike leave the same line of a message. -/
theorem Alike.written_eq (h : Alike left right r other) (level : Level) (message : String) :
    other.scene.written level message = r.scene.written level message := by
  unfold Scene.written
  rw [h.logger_eq, h.clock_eq, h.time_eq]

/-- Rehearsals that are alike stay so when both note an effect that starts no command. -/
theorem Alike.record (h : Alike left right r other) {effect : Effect} (hcommand : ∀ name, ¬ effect.IsRunOf name) :
    Alike left right (r.record effect) (other.record effect) :=
  h.of_added (r.keeps_record hcommand) (other.keeps_record hcommand) h.time_eq h.replies_eq rfl rfl (by rw [h.time_eq])

/-- A message leaves the same line in both. -/
theorem Alike.log (h : Alike left right r other) (level : Level) (message : String) :
    Alike left right (Rehearsal.world (.log level message) r).2 (Rehearsal.world (.log level message) other).2 := by
  refine h.of_added (keeps_world _ r) (keeps_world _ other) ?_ h.replies_eq (r.scene.log_trace level message)
    (other.scene.log_trace level message) ?_
  · exact (other.scene.log_time level message).trans (h.time_eq.trans (r.scene.log_time level message).symm)
  · rw [Scene.unmirrored_logged, Scene.unmirrored_logged, h.written_eq]

/-- The clock is set in the same way in both: the command for that is not the one that writes to the system log. -/
theorem Alike.setClock (h : Alike left right r other) (ms : Number) :
    (r.setClock ms).1 = (other.setClock ms).1 ∧ Alike left right (r.setClock ms).2 (other.setClock ms).2 := by
  have hkeeps := r.keeps_setClock ms
  have hkeeps' := other.keeps_setClock ms
  unfold Rehearsal.setClock at hkeeps hkeeps' ⊢
  rw [h.setter_eq] at hkeeps' ⊢
  cases hsetter : r.setter with
  | actor method behaviour => exact ⟨rfl, h.record fun _ hrun => hrun⟩
  | real setter =>
    rw [hsetter] at hkeeps hkeeps'
    cases hcommand : setter.command ms with
    | error failure => simpa only [hcommand, true_and] using h
    | ok arguments =>
      simp only [hcommand] at hkeeps hkeeps' ⊢
      have hname : ClockSetter.dateCommandName ≠ systemLogCommand := by decide
      obtain ⟨hresult, htime⟩ := Scene.runCommand_alike h.time_eq (h.script_eq _ hname 0) arguments
      refine ⟨congrArg (Option.map setter.conclude) hresult.symm, ?_⟩
      exact h.of_added hkeeps hkeeps' htime h.replies_eq (r.scene.runCommand_trace _ arguments)
        (other.scene.runCommand_trace _ arguments) (by rw [h.time_eq])

/-- Every action is answered in the same way by rehearsals that are alike, and leaves them alike. -/
theorem Alike.act (h : Alike left right r other) (action : Action) :
    (world action r).1 = (world action other).1 ∧ Alike left right (world action r).2 (world action other).2 := by
  cases action with
  | log level message =>
    have hlogged := r.scene.log_eq_ok_of_logsFreely level message h.free
    have hlogged' := other.scene.log_eq_ok_of_logsFreely level message h.free'
    exact ⟨congrArg some (hlogged.trans hlogged'.symm), h.log level message⟩
  | query server timeoutMs =>
    have hreplies : nextScript noReply other.replies = nextScript noReply r.replies := by rw [h.replies_eq]
    refine ⟨congrArg (fun next : Reply × List Reply => some next.1) hreplies.symm, ?_⟩
    exact h.of_added (keeps_world _ r) (keeps_world _ other) h.time_eq (congrArg Prod.snd hreplies) rfl rfl
      (by rw [h.time_eq])
  | sleep ms => exact ⟨rfl, h.record fun _ hrun => hrun⟩
  | isPrivileged => exact ⟨congrArg some h.privileged_eq.symm, h.record fun _ hrun => hrun⟩
  | setClock timeMs => exact h.setClock timeMs

/-- Whether two tasks go the same way in two rehearsals, apart from what they log. -/
structure Course {α : Type} (left right : Trace) (task task' : Task α) (r other : Rehearsal) : Prop where
  answer_eq : (Task.perform world task r).1 = (Task.perform world task' other).1
  calls_eq : calls (Task.actions world task r) = calls (Task.actions world task' other)
  alike : Alike left right (Task.perform world task r).2 (Task.perform world task' other).2

variable {α β : Type} {task task' : Task α} {next next' : α → Task β}

/-- A task goes the same way in rehearsals that are alike, and leaves them alike. -/
theorem Alike.perform (h : Alike left right r other) (task : Task α) :
    (Task.perform world task r).1 = (Task.perform world task other).1 ∧
      Task.actions world task r = Task.actions world task other ∧
      Alike left right (Task.perform world task r).2 (Task.perform world task other).2 := by
  have hany : task.run.Only fun _ => True := Program.only_true task.run
  exact Program.run_alike (fun action _ _ _ halike => halike.act action) hany h

/-- A task goes the same way as itself in rehearsals that are alike. -/
theorem Alike.course (h : Alike left right r other) (task : Task α) : Course left right task task r other := by
  obtain ⟨hanswer, hactions, halike⟩ := h.perform task
  exact ⟨hanswer, congrArg calls hactions, halike⟩

/-- Attempts at tasks that go the same way do so, too. -/
theorem Course.attempt (h : Course left right task task' r other) :
    Course left right (Task.attempt task) (Task.attempt task') r other where
  answer_eq := by rw [Task.perform_attempt, Task.perform_attempt, h.answer_eq]
  calls_eq := by rw [Task.actions_attempt, Task.actions_attempt, h.calls_eq]
  alike := by
    rw [Task.perform_attempt, Task.perform_attempt]
    exact h.alike

/-- Tasks in two parts go the same way if their parts do. -/
theorem Course.bind (h : Course left right task task' r other)
    (hnext : ∀ value later later', Alike left right later later' →
      Course left right (next value) (next' value) later later') :
    Course left right (task >>= next) (task' >>= next') r other := by
  obtain ⟨hanswer, hcalls, halike⟩ := h
  match hfirst : Task.perform world task r, hsecond : Task.perform world task' other with
  | (answer?, after), (answer', after') =>
    rw [hfirst, hsecond] at hanswer halike
    obtain rfl : answer? = answer' := hanswer
    cases answer? with
    | none => constructor <;> simp only [Task.perform_bind, Task.actions_bind, hfirst, hsecond, calls_append, hcalls, halike]
    | some result =>
      cases result with
      | error failure =>
        constructor <;> simp only [Task.perform_bind, Task.actions_bind, hfirst, hsecond, calls_append, hcalls, halike]
      | ok value =>
        obtain ⟨hanswer', hcalls', halike'⟩ := hnext value after after' halike
        constructor <;>
          simp only [Task.perform_bind, Task.actions_bind, hfirst, hsecond, calls_append, hcalls, hanswer', hcalls', halike']

/-- Where the first part comes to a value, it is enough to look at the second one from there. -/
theorem Course.bind_ok {left' right' : Trace} {value : α} (h : Course left right task task' r other)
    (hvalue : (Task.perform world task r).1 = some (.ok value))
    (hnext : Course left' right' (next value) (next' value) (Task.perform world task r).2
      (Task.perform world task' other).2) : Course left' right' (task >>= next) (task' >>= next') r other := by
  have hfirst : Task.perform world task r = (some (.ok value), (Task.perform world task r).2) := Prod.ext hvalue rfl
  have hsecond : Task.perform world task' other = (some (.ok value), (Task.perform world task' other).2) :=
    Prod.ext (h.answer_eq.symm.trans hvalue) rfl
  obtain ⟨hanswer, hcalls, halike⟩ := hnext
  refine ⟨?_, ?_, ?_⟩
  · rw [Task.perform_bind, Task.perform_bind, hfirst, hsecond]
    exact hanswer
  · rw [Task.actions_bind, Task.actions_bind, hfirst, hsecond, calls_append, calls_append, h.calls_eq]
    exact congrArg _ hcalls
  · rw [Task.perform_bind, Task.perform_bind, hfirst, hsecond]
    exact halike

/-- Apart from the system log, logging a message adds its line to the trace. -/
theorem unmirrored_log (r : Rehearsal) (level : Level) (message : String) :
    (Task.perform world (Task.log level message) r).2.scene.trace.unmirrored =
      r.scene.trace.unmirrored ++ r.scene.written level message := by
  rw [Task.perform_log, ← Scene.unmirrored_logged, ← Trace.unmirrored_append]
  exact congrArg Trace.unmirrored (r.scene.log_trace level message)

/-- Two debug messages may differ. -/
theorem Alike.debug (h : Alike left right r other) (message message' : String) :
    Course (r.scene.trace.unmirrored ++ r.scene.written .debug message)
      (other.scene.trace.unmirrored ++ r.scene.written .debug message') (Task.log .debug message)
      (Task.log .debug message') r other where
  answer_eq := by rw [attends_world.perform_debug, attends_world.perform_debug]
  calls_eq := rfl
  alike := by
    have hleft := r.unmirrored_log .debug message
    have hright := other.unmirrored_log .debug message'
    rw [Task.perform_log] at hleft hright ⊢
    rw [Task.perform_log]
    refine h.of_keeps (keeps_world (.log .debug message) r) (keeps_world (.log .debug message') other) ?_ h.replies_eq
      (r.scene.log_trace .debug message) (other.scene.log_trace .debug message') (fun name hname => ?_) ⟨[], ?_, ?_⟩
    · exact (other.scene.log_time _ _).trans (h.time_eq.trans (r.scene.log_time _ _).symm)
    · rw [Scene.runsOf_logged _ hname, Scene.runsOf_logged _ hname]
    · rw [List.append_nil, hleft]
    · rw [List.append_nil, hright, h.written_eq]

/-- A message may be logged in one of them only. -/
theorem Alike.log_or_not (h : Alike left right r other) (level : Level) (message : String) :
    Course (r.scene.trace.unmirrored ++ r.scene.written level message) other.scene.trace.unmirrored
      (Task.log level message) (pure ()) r other where
  answer_eq := perform_log level message h.free
  calls_eq := rfl
  alike := by
    have hleft := r.unmirrored_log level message
    rw [Task.perform_log] at hleft ⊢
    refine h.of_keeps (keeps_world (.log level message) r) (.refl other) ?_ h.replies_eq (r.scene.log_trace level message)
      (List.append_nil _).symm (fun name hname => ?_) ⟨[], ?_, (List.append_nil _).symm⟩
    · exact h.time_eq.trans (r.scene.log_time level message).symm
    · rw [Scene.runsOf_logged _ hname]
      rfl
    · rw [List.append_nil, hleft]

end Rehearsal

end Sntp
