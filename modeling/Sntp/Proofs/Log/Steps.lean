import Sntp.Proofs.Scene.Logging

/-!
# Logging step by step

A logger is used in steps: a message is logged, time passes, or the system log is flushed (`LogStep`). What the
steps leave in the trace is known from them: they start the command that writes to the system log once for each
message that is not a debug message, in the order of the messages (`starts_of_steps`), and besides they write
lines only (`grows_of_steps`).

Each start is a run that takes some time and then ends in some way (`LogRun`). The runs of a trace are numbered
in the order of their starts (`Trace.logRuns`), so that what was started since some moment is what a later trace
has more of (`logRuns_of_grows`).
-/

set_option autoImplicit false

namespace Sntp

/-- What is done with a logger. -/
inductive LogStep where
  | log (level : Level) (message : String)
  | wait (ms : Nat)
  | flush

/-- The arguments that a step starts the command with that writes to the system log, if it does so: the tag, the
priority of the level, and the message. -/
def LogStep.mirrored? (tag : String) : LogStep → Option (List String)
  | log .debug _ => none
  | log .info message => some ["-t", tag, "-p", "user.info", "--", message]
  | log .warning message => some ["-t", tag, "-p", "user.warning", "--", message]
  | log .error message => some ["-t", tag, "-p", "user.err", "--", message]
  | wait _ => none
  | flush => none

/-- How long a command takes that was started and ends, if it does not end at once, and how it ends. -/
def Launch.ending? : Launch → Option (Option Int × Except Failure Unit)
  | refused _ => none
  | endedAtOnce result => some (none, result)
  | ends after result => some (some after, result)
  | neverEnds => none

/-- A run of the command that writes to the system log. -/
structure LogRun where
  number : Nat
  start : Int
  /-- How long it takes, unless it ends at once. -/
  delay : Option Int
  result : Except Failure Unit

namespace LogRun

/-- When a run ends. -/
def ended (run : LogRun) : Int := run.start + run.delay.getD 0

/-- Whether a run ends with a failure. -/
def Fails (run : LogRun) : Prop := ∃ failure, run.result = .error failure

/-- Whether a run ends at the time at which it starts, but only when time is next allowed to pass. -/
def IsDeferred (run : LogRun) : Prop := run.delay = some 0

/-- Whether a run ends before another one. Of runs that end at one time, the one that was started first does; but
one that is deferred may end after one that is not. -/
def Precedes (run other : LogRun) : Prop :=
  run.ended < other.ended ∨
    run.ended = other.ended ∧ (run.number ≤ other.number ∨ other.IsDeferred ∧ ¬ run.IsDeferred)

end LogRun

/-- The arguments that an effect starts a command with, if it does so. -/
def Effect.arguments? (name : String) : Effect → Option (List String)
  | .command other arguments => if other = name then some arguments else none
  | _ => none

/-- The effects that have arguments for a command are its starts. -/
theorem Effect.isSome_arguments?_iff (name : String) (effect : Effect) :
    (effect.arguments? name).isSome ↔ effect.IsRunOf name := by
  cases effect with
  | command other arguments => by_cases hname : other = name <;> simp [Effect.arguments?, Effect.IsRunOf, hname]
  | _ => simp [Effect.arguments?, Effect.IsRunOf]

namespace Trace

/-- The starts of a command that a trace records: when, and with which arguments. -/
def starts (name : String) (trace : Trace) : List (Int × List String) :=
  trace.filterMap fun entry => (entry.2.arguments? name).map fun arguments => (entry.1, arguments)

/-- The runs of the command that writes to the system log, if it is known of each how long it takes and how it
ends. -/
def logRuns (ending : Nat → Option Int × Except Failure Unit) (trace : Trace) : List LogRun :=
  (trace.starts systemLogCommand).mapIdx fun number start => ⟨number, start.1, (ending number).1, (ending number).2⟩

variable {ending : Nat → Option Int × Except Failure Unit} {trace added : Trace}

/-- The starts of two traces in a row are those of each of them. -/
theorem starts_append (name : String) (first second : Trace) :
    (first ++ second).starts name = first.starts name ++ second.starts name := List.filterMap_append

/-- A trace that does not run a command has no starts of it. -/
theorem starts_eq_nil {name : String} (h : ∀ entry ∈ added, ¬ entry.2.IsRunOf name) : added.starts name = [] := by
  unfold starts
  rw [List.filterMap_eq_nil_iff]
  intro entry hmem
  have hnone := h entry hmem
  rw [← Effect.isSome_arguments?_iff, Option.not_isSome_iff_eq_none] at hnone
  rw [hnone, Option.map_none]

/-- There are as many starts of a command as it was run times. -/
theorem length_starts (name : String) (trace : Trace) : (trace.starts name).length = trace.runsOf name := by
  unfold starts runsOf
  rw [List.length_filterMap_eq_countP]
  refine List.countP_congr fun entry _ => ?_
  rw [Option.isSome_map, Effect.isSome_arguments?_iff, decide_eq_true_iff]

/-- A run has the number of runs before it, and goes as it is known to. -/
theorem number_of_mem_logRuns {run : LogRun} (h : run ∈ trace.logRuns ending) :
    run.number < trace.runsOf systemLogCommand ∧ run.delay = (ending run.number).1 ∧
      run.result = (ending run.number).2 := by
  obtain ⟨number, hlt, rfl⟩ := List.mem_mapIdx.mp h
  rw [length_starts] at hlt
  exact ⟨hlt, rfl, rfl⟩

/-- Runs are numbered in the order of their starts. -/
theorem pairwise_logRuns (ending : Nat → Option Int × Except Failure Unit) (trace : Trace) :
    (trace.logRuns ending).Pairwise fun run other => run.number < other.number := by
  rw [List.pairwise_iff_getElem]
  intro i j hi hj hlt
  simpa [logRuns] using hlt

/-- A longer trace has the same runs, and others. -/
theorem logRuns_append (ending : Nat → Option Int × Except Failure Unit) (trace added : Trace) :
    ∃ recent, (trace ++ added).logRuns ending = trace.logRuns ending ++ recent := by
  unfold logRuns
  rw [starts_append, List.mapIdx_append]
  exact ⟨_, rfl⟩

/-- What is no write to the system log adds no run. -/
theorem logRuns_append_of_no_run (h : ∀ entry ∈ added, ¬ entry.2.IsRunOf systemLogCommand) :
    (trace ++ added).logRuns ending = trace.logRuns ending := by
  unfold logRuns
  rw [starts_append, starts_eq_nil h, List.append_nil]

/-- A write to the system log adds a run at the end, with the next number. -/
theorem logRuns_append_run (ending : Nat → Option Int × Except Failure Unit) (trace : Trace) (time : Int)
    (arguments : List String) :
    Trace.logRuns ending (trace ++ [(time, .command systemLogCommand arguments)]) =
      trace.logRuns ending ++ [⟨trace.runsOf systemLogCommand, time, (ending (trace.runsOf systemLogCommand)).1,
        (ending (trace.runsOf systemLogCommand)).2⟩] := by
  unfold logRuns
  rw [starts_append, ← length_starts]
  exact List.mapIdx_concat

end Trace

namespace Scene

/-- Takes a step. There is no scene after it if a message cannot be logged, or a flush does not end. -/
def step (scene : Scene) : LogStep → Option Scene
  | .log level message =>
    match scene.log level message with
    | (.ok (), after) => some after
    | (.error _, _) => none
  | .wait ms => some (scene.waitUntil (scene.time + ms))
  | .flush =>
    match scene.flush with
    | (some (), after) => some after
    | (none, _) => none

/-- Takes one step after the other. -/
def steps (scene : Scene) (steps : List LogStep) : Option Scene := steps.foldlM step scene

variable {scene later : Scene}

/-- A message can be logged if the scene logs it. -/
theorem step_log_eq_some_iff (level : Level) (message : String) :
    scene.step (.log level message) = some later ↔ scene.log level message = (.ok (), later) := by
  match hlog : scene.log level message with
  | (.ok (), after) => simp [step, hlog]
  | (.error failure, after) => simp [step, hlog]

/-- A flush ends if that of the scene does. -/
theorem step_flush_eq_some_iff : scene.step .flush = some later ↔ scene.flush = (some (), later) := by
  match hflush : scene.flush with
  | (some (), after) => simp [step, hflush]
  | (none, after) => simp [step, hflush]

/-- Steps are taken from the first one on. -/
theorem steps_cons (first : LogStep) (rest : List LogStep) :
    scene.steps (first :: rest) = (scene.step first).bind fun after => after.steps rest := List.foldlM_cons

/-- Steps in a row are taken one after the other. -/
theorem steps_append (first second : List LogStep) :
    scene.steps (first ++ second) = (scene.steps first).bind fun after => after.steps second := List.foldlM_append

/-- A step writes lines and starts the command that writes to the system log, and nothing else. -/
theorem grows_of_step {step : LogStep} (h : scene.step step = some later) : scene.Grows Effect.IsLogging later := by
  cases step with
  | log level message =>
    have hlog := (step_log_eq_some_iff level message).mp h
    have hgrows := scene.grows_log level message fun _ heffect => heffect
    rw [hlog] at hgrows
    exact hgrows
  | wait ms =>
    obtain rfl := Option.some.inj h
    exact scene.grows_waitUntil _
  | flush =>
    have hflush := step_flush_eq_some_iff.mp h
    have hgrows : scene.Grows Effect.IsLogging scene.flush.2 := scene.grows_flush fun _ => .inl trivial
    rw [hflush] at hgrows
    exact hgrows

/-- Steps write lines and start the command that writes to the system log, and nothing else. -/
theorem grows_of_steps {steps : List LogStep} (h : scene.steps steps = some later) :
    scene.Grows Effect.IsLogging later := by
  induction steps generalizing scene with
  | nil =>
    obtain rfl := Option.some.inj h
    exact .refl _ scene
  | cons first rest ih =>
    rw [steps_cons] at h
    obtain ⟨after, hfirst, hrest⟩ := Option.bind_eq_some_iff.mp h
    exact (grows_of_step hfirst).trans (ih hrest)

/-- The runs of a scene are those of an earlier one, and others. -/
theorem logRuns_of_grows (ending : Nat → Option Int × Except Failure Unit) {kind : Effect → Prop}
    (h : scene.Grows kind later) :
    ∃ recent, later.trace.logRuns ending = scene.trace.logRuns ending ++ recent := by
  obtain ⟨added, htrace, -, -⟩ := h.added
  rw [htrace]
  exact scene.trace.logRuns_append ending added

/-- A line on the console starts no command. -/
theorem starts_written (name : String) (level : Level) (message : String) :
    (scene.written level message).starts name = [] := by
  unfold written
  by_cases hwrites : scene.logger.writes level
  · rw [if_pos hwrites]
    rfl
  · rw [if_neg hwrites]
    rfl

/-- A step adds the start that it mirrors its message with, if it does so. -/
theorem starts_of_step {tag : String} {step : LogStep} (htag : scene.systemLogTag = some tag)
    (h : scene.step step = some later) :
    (later.trace.starts systemLogCommand).map Prod.snd =
      (scene.trace.starts systemLogCommand).map Prod.snd ++ (step.mirrored? tag).toList := by
  cases step with
  | log level message =>
    have hlog := (step_log_eq_some_iff level message).mp h
    have htrace := scene.log_trace level message
    rw [hlog] at htrace
    rw [htrace, Trace.starts_append, List.map_append]
    congr 1
    unfold logged
    rw [Trace.starts_append, starts_written, htag]
    cases level <;> rfl
  | wait ms =>
    obtain rfl := Option.some.inj h
    exact (List.append_nil _).symm
  | flush =>
    have hflush := step_flush_eq_some_iff.mp h
    have hgrows : scene.Grows Effect.IsConsole scene.flush.2 := scene.grows_flush fun _ => trivial
    rw [hflush] at hgrows
    obtain ⟨added, htrace, hadded, -⟩ := hgrows.added
    have hnone : added.starts systemLogCommand = [] :=
      Trace.starts_eq_nil fun entry hmem => (hadded entry hmem).not_isRunOf systemLogCommand
    rw [htrace, Trace.starts_append, hnone]
    simp [LogStep.mirrored?]

/-- The system log is written to once for each message that goes there, in the order of the messages. -/
theorem starts_of_steps {tag : String} {steps : List LogStep} (htag : scene.systemLogTag = some tag)
    (h : scene.steps steps = some later) :
    (later.trace.starts systemLogCommand).map Prod.snd =
      (scene.trace.starts systemLogCommand).map Prod.snd ++ steps.filterMap (LogStep.mirrored? tag) := by
  induction steps generalizing scene with
  | nil =>
    obtain rfl := Option.some.inj h
    exact (List.append_nil _).symm
  | cons first rest ih =>
    rw [steps_cons] at h
    obtain ⟨after, hfirst, hrest⟩ := Option.bind_eq_some_iff.mp h
    have htagged : after.systemLogTag = some tag := (grows_of_step hfirst).tag_eq.trans htag
    rw [ih htagged hrest, starts_of_step htag hfirst, List.append_assoc]
    cases hmirrored : first.mirrored? tag <;> simp [hmirrored]

end Scene

end Sntp
