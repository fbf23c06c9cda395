import Sntp.Proofs.Log.Round
import Sntp.Proofs.Scene.Closing
import Sntp.Proofs.Text.Trimming

/-!
# What a flush reports

If every run of the command that writes to the system log ends at some time (`EndsAs`), then logging and flushing
go on for ever: in whatever order messages are logged, time passes and the system log is flushed, a scene stays
one whose runs since the last flush are a round (`Stands`). By `Scene.flush_reports`, a flush waits for all
runs, and warns of the one that failed first since the flush before it, if there is one.
-/

set_option autoImplicit false

namespace Sntp

/-- Whether it is known of each run of the command that writes to the system log how long it takes and how it
ends: no run is refused, all end, and what a run fails with has something to say. -/
structure EndsAs (script : Nat → CommandScript) (ending : Nat → Option Int × Except Failure Unit) : Prop where
  ends : ∀ number, ((script number).launch systemLogCommand).ending? = some (ending number)
  delay_nonneg : ∀ number delay, (ending number).1 = some delay → 0 ≤ delay
  speaks : ∀ number failure, (ending number).2 = .error failure → failure.isEmpty = false

namespace Scene

/-- Whether the runs that a scene waits for are due, and the agenda holds their ends. -/
structure Holds (scene : Scene) (waiting : List LogRun) : Prop where
  endings_eq : (scene.endings.map fun ending => (ending.1, ending.2.2)) = waiting.map fun run => (run.ended, run.result)
  due : ∀ run ∈ waiting, scene.time < run.ended ∨ scene.time = run.ended ∧ run.IsDeferred

/-- How a scene stands between two flushes: its books are in order, the runs before the last flush have ended, and
those since then are a round. -/
structure Stands (script : String → Nat → CommandScript) (ending : Nat → Option Int × Except Failure Unit) (tag : String)
    (past recent : List LogRun) (scene : Scene) : Prop where
  tag_eq : scene.systemLogTag = some tag
  accounts : scene.Accounts script
  due : scene.Due
  runs_eq : scene.trace.logRuns ending = past ++ recent
  past_ended : ∀ run ∈ past, run.ended ≤ scene.time
  round : ∃ waiting, scene.Holds waiting ∧ Round recent waiting scene.time scene.systemLog.failure

variable {script : String → Nat → CommandScript} {ending : Nat → Option Int × Except Failure Unit} {tag : String}
  {past recent : List LogRun} {scene : Scene}

/-- The ends on the agenda are in order if the runs that are waited for are. -/
theorem Holds.isOrdered {waiting : List LogRun} (h : scene.Holds waiting)
    (hordered : waiting.Pairwise LogRun.Precedes) : scene.endings.IsOrdered := by
  have hmapped : (waiting.map fun run => (run.ended, run.result)).Pairwise fun first second => first.1 ≤ second.1 := by
    refine List.pairwise_map.mpr (hordered.imp fun hprecedes => ?_)
    rcases hprecedes with hlt | ⟨heq, -⟩
    · exact Int.le_of_lt hlt
    · exact Int.le_of_eq heq
  rw [← h.endings_eq] at hmapped
  have hordered := List.pairwise_map.mp hmapped
  exact hordered

/-- The runs that are waited for stand as their ends do. -/
theorem Holds.exists_append {waiting : List LogRun} (h : scene.Holds waiting)
    {first last : Agenda (Nat × Except Failure Unit)} (hsplit : scene.endings = first ++ last) :
    ∃ ended left, waiting = ended ++ left ∧
      (first.map fun ending => (ending.1, ending.2.2)) = ended.map (fun run => (run.ended, run.result)) ∧
      (last.map fun ending => (ending.1, ending.2.2)) = left.map fun run => (run.ended, run.result) := by
  have hmapped := h.endings_eq
  rw [hsplit, List.map_append] at hmapped
  obtain ⟨ended, left, hwaiting, hended, hleft⟩ := List.map_eq_append_iff.mp hmapped.symm
  exact ⟨ended, left, hwaiting, hended.symm, hleft.symm⟩

/-- What holds of the time of each ending holds of the runs whose ends they are. -/
theorem forall_run_of_map_eq (kind : Int → Prop) {endings : Agenda (Nat × Except Failure Unit)} {runs : List LogRun}
    (heq : (endings.map fun ending => (ending.1, ending.2.2)) = runs.map fun run => (run.ended, run.result))
    (h : ∀ ending ∈ endings, kind ending.1) : ∀ run ∈ runs, kind run.ended := by
  intro run hmem
  have hmapped : (run.ended, run.result) ∈ endings.map fun ending => (ending.1, ending.2.2) :=
    heq ▸ List.mem_map_of_mem hmem
  obtain ⟨ending, hending, hpair⟩ := List.mem_map.mp hmapped
  have htime : ending.1 = run.ended := congrArg Prod.fst hpair
  exact htime ▸ h ending hending

/-- The results on the agenda are those of the runs that are waited for. -/
theorem results_of_map_eq {endings : Agenda (Nat × Except Failure Unit)} {runs : List LogRun}
    (heq : (endings.map fun ending => (ending.1, ending.2.2)) = runs.map fun run => (run.ended, run.result)) :
    (endings.map fun ending => ending.2.2) = runs.map LogRun.result := by
  have hresults := congrArg (List.map Prod.snd) heq
  rw [List.map_map, List.map_map] at hresults
  exact hresults

/-- Once time has passed up to a moment, what is still to come is due later. -/
theorem lt_of_mem_waitUntil (hordered : scene.endings.IsOrdered) (time : Int) :
    ∀ ending ∈ (scene.waitUntil time).endings, time < ending.1 := by
  have hlater : (scene.waitUntil time).endings = scene.endings.dropWhile (·.1 ≤ time) := by
    simp [waitUntil, List.span_eq_takeWhile_dropWhile]
  rw [hlater]
  generalize scene.endings = endings at hordered
  induction endings with
  | nil =>
    intro ending hmem
    cases hmem
  | cons first rest ih =>
    obtain ⟨hfirst, hrest⟩ := List.pairwise_cons.mp hordered
    by_cases hle : first.1 ≤ time
    · rw [List.dropWhile_cons_of_pos (by simpa using hle)]
      exact ih hrest
    · rw [List.dropWhile_cons_of_neg (by simpa using hle)]
      intro ending hmem
      rcases List.mem_cons.mp hmem with rfl | hmem
      · exact Int.not_le.mp hle
      · exact Int.lt_of_lt_of_le (Int.not_le.mp hle) (hfirst ending hmem)

/-- The latest of a time and the times of an agenda is before none of them. -/
theorem le_foldl_max (endings : Agenda (Nat × Except Failure Unit)) (time : Int) :
    time ≤ endings.foldl (fun time ending => max time ending.1) time ∧
      ∀ ending ∈ endings, ending.1 ≤ endings.foldl (fun time ending => max time ending.1) time := by
  induction endings generalizing time with
  | nil => exact ⟨Int.le_refl _, nofun⟩
  | cons first rest ih =>
    obtain ⟨htime, hrest⟩ := ih (max time first.1)
    refine ⟨Int.le_trans (Int.le_max_left ..) htime, fun ending hmem => ?_⟩
    rcases List.mem_cons.mp hmem with rfl | hmem
    · exact Int.le_trans (Int.le_max_right ..) htime
    · exact hrest ending hmem

/-- A scene still stands when time has passed. -/
theorem Stands.waitUntil (h : scene.Stands script ending tag past recent) {time : Int} (hle : scene.time ≤ time) :
    (scene.waitUntil time).Stands script ending tag past recent := by
  obtain ⟨waiting, hholds, hround⟩ := h.round
  obtain ⟨ended, hsplit, hdue, hlog⟩ := scene.waitUntil_endings time
  obtain ⟨gone, left, rfl, hover, hleft⟩ := hholds.exists_append hsplit
  have htime : (scene.waitUntil time).time = time := Int.max_eq_right hle
  have hends : ∀ run ∈ gone, run.ended ≤ time := forall_run_of_map_eq (· ≤ time) hover hdue
  refine ⟨h.tag_eq, h.accounts.waitUntil time, h.due.waitUntil time, h.runs_eq, ?_, left, ⟨hleft, ?_⟩, ?_⟩
  · rw [htime]
    exact fun run hmem => Int.le_trans (h.past_ended run hmem) hle
  · rw [htime]
    have hlater := lt_of_mem_waitUntil (hholds.isOrdered hround.ordered) time
    exact fun run hmem => .inl (forall_run_of_map_eq (time < ·) hleft hlater run hmem)
  · rw [htime, hlog, SystemLog.failure_foldl_settle, results_of_map_eq hover]
    exact (hround.mono hle).settleAll hends

/-- A scene still stands when a line was written. -/
theorem Stands.writeLine (h : scene.Stands script ending tag past recent) (level : Level) (message : String) :
    (scene.writeLine level message).Stands script ending tag past recent := by
  obtain ⟨waiting, hholds, hround⟩ := h.round
  refine ⟨h.tag_eq, h.accounts.writeLine level message, h.due, ?_, h.past_ended, waiting,
    ⟨hholds.endings_eq, hholds.due⟩, hround⟩
  refine (Trace.logRuns_append_of_no_run fun entry hmem => ?_).trans h.runs_eq
  rw [List.mem_singleton.mp hmem]
  exact id

/-- A run that ends at once does so before all that are waited for: those that are due at this time are deferred. -/
theorem Holds.endAtOnce {waiting : List LogRun} {failure : Option Failure} {new : LogRun} (h : scene.Holds waiting)
    (hround : Round recent waiting scene.time failure) (hspeaks : new.Speaks) (hstart : new.start = scene.time)
    (hdelay : new.delay = none) (hnumber : ∀ run ∈ recent, run.number ≤ new.number) :
    Round (recent ++ [new]) waiting scene.time (SystemLog.failureAfter failure new.result) := by
  have hended : new.ended = scene.time := by
    unfold LogRun.ended
    rw [hstart, hdelay]
    exact Int.add_zero _
  have hpunctual : ¬ new.IsDeferred := by
    unfold LogRun.IsDeferred
    rw [hdelay]
    exact nofun
  have hprecedes : ∀ run ∈ waiting, new.Precedes run := by
    intro run hmem
    rcases h.due run hmem with hlt | ⟨heq, hdeferred⟩
    · exact .inl (hended ▸ hlt)
    · exact .inr ⟨hended.trans heq, .inr ⟨hdeferred, hpunctual⟩⟩
  have hentered : Round (recent ++ [new]) ([] ++ new :: waiting) scene.time failure :=
    Round.enter hround hspeaks (Int.le_of_eq hended.symm) hnumber nofun hprecedes
  exact hentered.settle (Int.le_of_eq hended)

/-- A run that takes some time is waited for, after all that end no later. -/
theorem Holds.schedule {waiting : List LogRun} {failure : Option Failure} {new : LogRun} (h : scene.Holds waiting)
    (hround : Round recent waiting scene.time failure) (hspeaks : new.Speaks) (hstart : new.start = scene.time)
    {delay : Int} (hdelay : new.delay = some delay) (hnonneg : 0 ≤ delay)
    (hnumber : ∀ run ∈ recent, run.number ≤ new.number) (write : Nat) :
    ∃ waiting', ({ scene with endings := scene.endings.enter new.ended (write, new.result) } : Scene).Holds waiting' ∧
      Round (recent ++ [new]) waiting' scene.time failure := by
  have hends : new.ended = scene.time + delay := by
    unfold LogRun.ended
    rw [hstart, hdelay]
    rfl
  have hended : scene.time ≤ new.ended := hends ▸ Int.le_add_of_nonneg_right hnonneg
  obtain ⟨first, last, hsplit, henter, hfirst, hlast⟩ :=
    Agenda.exists_enter (h.isOrdered hround.ordered) new.ended (write, new.result)
  obtain ⟨before, after, rfl, hbefore, hafter⟩ := h.exists_append hsplit
  refine ⟨before ++ new :: after, ⟨?_, fun run hmem => ?_⟩, ?_⟩
  · simp only [henter, List.map_append, List.map_cons, hbefore, hafter]
  · by_cases hnew : run = new
    · show scene.time < run.ended ∨ scene.time = run.ended ∧ run.IsDeferred
      rw [hnew]
      rcases Int.lt_or_eq_of_le hnonneg with hlt | rfl
      · exact .inl (by omega)
      · exact .inr ⟨by omega, hdelay⟩
    · refine h.due run ?_
      simpa [hnew] using hmem
  · refine hround.enter hspeaks hended hnumber (fun run hmem => ?_) fun run hmem => ?_
    · have hle : run.ended ≤ new.ended := forall_run_of_map_eq (· ≤ new.ended) hbefore hfirst run hmem
      rcases Int.lt_or_eq_of_le hle with hlt | heq
      · exact .inl hlt
      · exact .inr ⟨heq, .inl (hnumber run (hround.mem run (List.mem_append_left _ hmem)))⟩
    · exact .inl (forall_run_of_map_eq (new.ended < ·) hafter hlast run hmem)

/-- The run that a message to the system log starts: it ends as its script says, and it is the last one so far. -/
theorem Stands.exists_next (h : scene.Stands script ending tag past recent)
    (hends : EndsAs (script systemLogCommand) ending) (level : Level) (message : String) :
    ∃ new : LogRun, (scene.launch systemLogCommand (systemLogArguments tag level message)).1.ending? =
        some (new.delay, new.result) ∧
      (scene.writeSystemLog tag level message).2.trace.logRuns ending = past ++ (recent ++ [new]) ∧
      new.start = scene.time ∧ (∀ delay, new.delay = some delay → 0 ≤ delay) ∧ new.Speaks ∧
      ∀ run ∈ recent, run.number ≤ new.number := by
  refine ⟨⟨scene.trace.runsOf systemLogCommand, scene.time, (ending (scene.trace.runsOf systemLogCommand)).1,
    (ending (scene.trace.runsOf systemLogCommand)).2⟩, ?_, ?_, rfl, hends.delay_nonneg _, hends.speaks _, ?_⟩
  · rw [launch_fst, h.accounts.script_eq, Nat.add_zero]
    exact hends.ends _
  · rw [writeSystemLog_trace, Trace.logRuns_append_run, h.runs_eq, List.append_assoc]
  · intro run hmem
    exact Nat.le_of_lt (Trace.number_of_mem_logRuns (h.runs_eq ▸ List.mem_append_right _ hmem)).1

/-- A run that is started is the latest of its round. -/
theorem Stands.writeSystemLog (h : scene.Stands script ending tag past recent)
    (hends : EndsAs (script systemLogCommand) ending) (level : Level) (message : String) :
    ∃ later run, scene.writeSystemLog tag level message = (.ok (), later) ∧
      later.Stands script ending tag past (recent ++ [run]) := by
  obtain ⟨waiting, hholds, hround⟩ := h.round
  obtain ⟨new, hlaunch, hruns, hstart, hnonneg, hspeaks, hnumber⟩ := h.exists_next hends level message
  have haccounts := h.accounts.writeSystemLog tag level message (by simp [h.tag_eq])
  have hdue := h.due.writeSystemLog tag level message fun hnever => by
    rw [hnever] at hlaunch
    cases hlaunch
  refine ⟨(scene.writeSystemLog tag level message).2, new, ?_⟩
  have hlaunched : ∀ launch after, scene.launch systemLogCommand (systemLogArguments tag level message) =
      (launch, after) → after = { scene with trace := after.trace, scripts := after.scripts } := by
    intro launch after hrun
    obtain rfl := congrArg Prod.snd hrun
    rfl
  unfold Scene.writeSystemLog at haccounts hdue hruns ⊢
  -- That all runs end leaves two of the four ways in which a launch can go.
  match hrun : scene.launch systemLogCommand (systemLogArguments tag level message) with
  | (.refused failure, after) =>
    rw [hrun] at hlaunch
    cases hlaunch
  | (.neverEnds, after) =>
    rw [hrun] at hlaunch
    cases hlaunch
  | (.endedAtOnce result, after) =>
    simp only [hrun] at haccounts hdue hruns hlaunch ⊢
    obtain ⟨hnone, hresult⟩ := Prod.mk.inj (Option.some.inj hlaunch)
    have hover := hholds.endAtOnce hround hspeaks hstart hnone.symm hnumber
    rw [hlaunched _ _ hrun] at haccounts hdue hruns ⊢
    refine ⟨trivial, h.tag_eq, haccounts, hdue, hruns, h.past_ended, waiting, ⟨hholds.endings_eq, hholds.due⟩, ?_⟩
    rw [SystemLog.failure_settle, hresult]
    exact hover
  | (.ends delay result, after) =>
    simp only [hrun] at haccounts hdue hruns hlaunch ⊢
    obtain ⟨hsome, hresult⟩ := Prod.mk.inj (Option.some.inj hlaunch)
    have hended : scene.time + delay = new.ended := by
      unfold LogRun.ended
      rw [hstart, ← hsome]
      rfl
    obtain ⟨waiting', hholds', hround'⟩ :=
      hholds.schedule hround hspeaks hstart hsome.symm (hnonneg delay hsome.symm) hnumber scene.issued
    rw [hlaunched _ _ hrun] at haccounts hdue hruns ⊢
    refine ⟨trivial, h.tag_eq, haccounts, hdue, hruns, h.past_ended, waiting', ⟨?_, hholds'.due⟩, hround'⟩
    rw [← hholds'.endings_eq, ← hresult, ← hended]
    rfl

/-- A scene still stands when a message was logged, which has added a run if it was mirrored. -/
theorem Stands.log (h : scene.Stands script ending tag past recent) (hends : EndsAs (script systemLogCommand) ending)
    (level : Level) (message : String) :
    ∃ later added, scene.log level message = (.ok (), later) ∧ later.Stands script ending tag past (recent ++ added) := by
  have hwritten : (if scene.logger.writes level then scene.writeLine level message else scene).Stands script ending tag
      past recent := by
    by_cases hwrites : scene.logger.writes level
    · rw [if_pos hwrites]
      exact h.writeLine level message
    · rw [if_neg hwrites]
      exact h
  unfold Scene.log
  rw [h.tag_eq]
  by_cases hdebug : level = .debug
  · refine ⟨_, [], ?_, (List.append_nil recent).symm ▸ hwritten⟩
    simp only [if_pos hdebug]
  · obtain ⟨later, run, hwrite, hlater⟩ := hwritten.writeSystemLog hends level message
    exact ⟨later, [run], by simp only [if_neg hdebug, hwrite], hlater⟩

/-- A close waits for all runs, and leaves nothing to wait for. -/
theorem Stands.closeSystemLog (h : scene.Stands script ending tag past recent) :
    ∃ failure later, scene.closeSystemLog = (some failure, later) ∧ later.trace = scene.trace ∧
      later.logger = scene.logger ∧ later.logClock = scene.logClock ∧
      later.Stands script ending tag (past ++ recent) [] ∧ Round recent [] later.time failure := by
  obtain ⟨waiting, hholds, hround⟩ := h.round
  have hno_closing := h.accounts.ledger.no_closing
  have hclose := h.due.closeSystemLog_eq hno_closing
  obtain ⟨htime, hdue⟩ := le_foldl_max scene.endings scene.time
  have hended := forall_run_of_map_eq (· ≤ _) hholds.endings_eq hdue
  have hlate : Round recent (waiting ++ []) _ _ := (List.append_nil waiting).symm ▸ hround.mono htime
  have hover := hlate.settleAll hended
  have hgrows : scene.Grows (fun _ => False) scene.closeSystemLog.2 := scene.grows_closeSystemLog
  have hcovers : ∀ launch start, scene.Covers launch start → scene.closeSystemLog.2.Covers launch start :=
    fun launch start hcovered => .inl (hcovered.closeSystemLog hno_closing (congrArg Prod.fst hclose))
  have haccounts : scene.closeSystemLog.2.Accounts script := by
    refine h.accounts.of_grows hgrows (fun _ hkind => hkind.elim) ?_ hcovers
    rw [hclose]
    exact ⟨rfl, fun _ => rfl, nofun, nofun⟩
  rw [hclose] at haccounts ⊢
  refine ⟨_, _, rfl, rfl, rfl, rfl, ⟨h.tag_eq, haccounts, .refl _, ?_, fun run hmem => ?_, [], ⟨rfl, nofun⟩, .idle _⟩, ?_⟩
  · exact h.runs_eq.trans (List.append_nil _).symm
  · rcases List.mem_append.mp hmem with hmem | hmem
    · exact Int.le_trans (h.past_ended run hmem) htime
    · exact hover.ended_le run hmem
  · rw [SystemLog.failure_foldl_settle, results_of_map_eq hholds.endings_eq]
    exact hover

/-- A flush waits for all runs, and leaves nothing to wait for. It reports the failure of the first run of the
round that fails, if one does. -/
theorem Stands.flush (h : scene.Stands script ending tag past recent) :
    ∃ later, scene.flush = (some (), later) ∧ later.Stands script ending tag (past ++ recent) [] ∧
      ((∀ run ∈ recent, ¬ run.Fails) ∧ later.trace = scene.trace ∨
        ∃ (run : LogRun) (failure : Failure), run.FailsFirst recent failure ∧ later.trace = scene.trace ++
          [(later.time, .line (scene.logger.line (scene.logClock.read later.time) .warning (systemLogFailed failure)))]) := by
  obtain ⟨failure?, closed, hclose, htrace, hlogger, hclock, hstands, hover⟩ := h.closeSystemLog
  unfold Scene.flush
  simp only [h.tag_eq, hclose]
  cases failure? with
  | none => exact ⟨closed, rfl, hstands, .inl ⟨hover.not_fails, htrace⟩⟩
  | some failure =>
    obtain ⟨hspeaks, run, hfirst⟩ := hover.exists_failsFirst
    simp only [hspeaks]
    refine ⟨_, rfl, hstands.writeLine _ _, .inr ⟨run, failure, hfirst, ?_⟩⟩
    rw [← htrace, ← hlogger, ← hclock]
    rfl

/-- A scene still stands after a step that is no flush. -/
theorem Stands.step (h : scene.Stands script ending tag past recent) (hends : EndsAs (script systemLogCommand) ending)
    {step : LogStep} (hstep : step ≠ .flush) :
    ∃ later added, scene.step step = some later ∧ later.Stands script ending tag past (recent ++ added) := by
  cases step with
  | log level message =>
    obtain ⟨later, added, hlog, hlater⟩ := h.log hends level message
    exact ⟨later, added, (step_log_eq_some_iff level message).mpr hlog, hlater⟩
  | wait ms =>
    have hle : scene.time ≤ scene.time + ms := Int.le_add_of_nonneg_right (Int.natCast_nonneg ms)
    exact ⟨_, [], rfl, (List.append_nil recent).symm ▸ h.waitUntil hle⟩
  | flush => exact absurd rfl hstep

/-- Steps without a flush go on with a round. -/
theorem Stands.steps_of_no_flush (h : scene.Stands script ending tag past recent)
    (hends : EndsAs (script systemLogCommand) ending) {steps : List LogStep} (hsteps : .flush ∉ steps) :
    ∃ later added, scene.steps steps = some later ∧ later.Stands script ending tag past (recent ++ added) := by
  induction steps generalizing scene recent with
  | nil => exact ⟨scene, [], rfl, (List.append_nil recent).symm ▸ h⟩
  | cons first rest ih =>
    obtain ⟨hfirst, hrest⟩ := List.ne_and_not_mem_of_not_mem_cons hsteps
    obtain ⟨after, added, hstep, hafter⟩ := h.step hends (Ne.symm hfirst)
    obtain ⟨later, more, hlast, hlater⟩ := ih hafter hrest
    refine ⟨later, added ++ more, ?_, List.append_assoc recent added more ▸ hlater⟩
    rw [steps_cons, hstep]
    exact hlast

/-- Steps can be taken for ever. -/
theorem Stands.steps (h : scene.Stands script ending tag past recent)
    (hends : EndsAs (script systemLogCommand) ending) (steps : List LogStep) :
    ∃ later past' recent', scene.steps steps = some later ∧ later.Stands script ending tag past' recent' := by
  -- The induction is on the steps, and what stands is how the scene does between any two of them.
  induction steps generalizing scene past recent with
  | nil => exact ⟨scene, past, recent, rfl, h⟩
  | cons first rest ih =>
    obtain ⟨after, past', recent', hfirst, hafter⟩ :
        ∃ after past' recent', scene.step first = some after ∧ after.Stands script ending tag past' recent' := by
      by_cases hflush : first = .flush
      · obtain ⟨after, hflushed, hafter, -⟩ := h.flush
        exact ⟨after, _, _, hflush ▸ step_flush_eq_some_iff.mpr hflushed, hafter⟩
      · obtain ⟨after, added, hstep, hafter⟩ := h.step hends hflush
        exact ⟨after, _, _, hstep, hafter⟩
    obtain ⟨later, past'', recent'', hrest, hlater⟩ := ih hafter
    refine ⟨later, past'', recent'', ?_, hlater⟩
    rw [steps_cons, hfirst]
    exact hrest

/-- A scene stands at its opening, where nothing was run. -/
theorem stands_opening (logger : Logger) (logClock : LogClock) (tag : String)
    (scripts : List (String × List CommandScript)) (ending : Nat → Option Int × Except Failure Unit) :
    (opening logger logClock (some tag) scripts).Stands (opening logger logClock (some tag) scripts).script ending tag
      [] [] where
  tag_eq := rfl
  accounts := accounts_opening logger logClock (some tag) scripts
  due := .refl _
  runs_eq := rfl
  past_ended := nofun
  round := ⟨[], ⟨rfl, nofun⟩, .idle _⟩

/-- A warning about the system log is written out: the time, the tag of its level, and the message with the failure
quoted in it. -/
theorem line_systemLogFailed (logger : Logger) (now : Number) (failure : Failure) :
    logger.line now .warning (systemLogFailed failure) = timeStamp now ++ " " ++
      (if logger.color then "\x1b[33mWARNING\x1b[39m" else "WARNING") ++ " Syslog write failed: " ++ failure.summary := by
  have hwords : " Syslog write failed: " = " " ++ "Syslog write failed: " := rfl
  unfold Logger.line systemLogFailed
  rw [hwords, ← String.append_assoc, ← String.append_assoc]
  rfl

/-- Let all runs end of the command that writes to the system log, and let a round follow on a flush or on the
beginning. Up to the end of the round the command was started once for each message that is not a debug message,
in the order of the messages, with the priorities of their levels. The flush that ends the round returns once all runs
have ended. If no run of the round fails, it writes nothing; otherwise it writes one warning, which quotes the failure
of the run that failed first. The runs of the round belong to no later round, so that no failure is reported twice. -/
theorem flush_reports (logger : Logger) (logClock : LogClock) (tag : String)
    (scripts : List (String × List CommandScript)) (ending : Nat → Option Int × Except Failure Unit)
    (hends : EndsAs ((opening logger logClock (some tag) scripts).script systemLogCommand) ending)
    (before recent : List LogStep) (hbefore : before = [] ∨ ∃ earlier, before = earlier ++ [.flush])
    (hrecent : .flush ∉ recent) :
    ∃ start now later runs, (opening logger logClock (some tag) scripts).steps before = some start ∧
      start.steps recent = some now ∧ now.step .flush = some later ∧
      (now.trace.starts "logger").map Prod.snd = (before ++ recent).filterMap (LogStep.mirrored? tag) ∧
      now.trace.logRuns ending = start.trace.logRuns ending ++ runs ∧
      (∀ run ∈ now.trace.logRuns ending, run.ended ≤ later.time) ∧
      ((∀ run ∈ runs, ¬ run.Fails) ∧ later.trace = now.trace ∨
        ∃ (run : LogRun) (failure : Failure) (quoted : String), run.FailsFirst runs failure ∧
          IsQuoted failure.message.toList quoted.toList ∧ later.trace = now.trace ++
            [(later.time, .line (timeStamp (logClock.read later.time) ++ " " ++
              (if logger.color then "\x1b[33mWARNING\x1b[39m" else "WARNING") ++ " Syslog write failed: " ++ quoted))]) ∧
      ∀ (more : List LogStep) (next present : Scene) (added : List LogRun), later.steps more = some next →
        present.trace.logRuns ending = next.trace.logRuns ending ++ added → ∀ run ∈ runs, run ∉ added := by
  have hopening := stands_opening logger logClock tag scripts ending
  -- A round begins with nothing to wait for, at the opening as well as after a flush.
  obtain ⟨start, past, hbegun, hstart⟩ : ∃ start past, (opening logger logClock (some tag) scripts).steps before =
      some start ∧ start.Stands (opening logger logClock (some tag) scripts).script ending tag past [] := by
    rcases hbefore with rfl | ⟨earlier, rfl⟩
    · exact ⟨_, _, rfl, hopening⟩
    · obtain ⟨unflushed, past, round, hearlier, hunflushed⟩ := hopening.steps hends earlier
      obtain ⟨start, hflush, hstart, -⟩ := hunflushed.flush
      refine ⟨start, _, ?_, hstart⟩
      rw [steps_append, hearlier, Option.bind_some, steps_cons, step_flush_eq_some_iff.mpr hflush]
      rfl
  obtain ⟨now, runs, hsteps, hnow⟩ := hstart.steps_of_no_flush hends hrecent
  obtain ⟨later, hflush, hlater, hreports⟩ := hnow.flush
  rw [List.nil_append] at hnow hlater hreports
  have hall : (opening logger logClock (some tag) scripts).steps (before ++ recent) = some now := by
    rw [steps_append, hbegun, Option.bind_some, hsteps]
  have hruns : start.trace.logRuns ending = past := hstart.runs_eq.trans (List.append_nil past)
  refine ⟨start, now, later, runs, hbegun, hsteps, step_flush_eq_some_iff.mpr hflush, ?_, hruns ▸ hnow.runs_eq, ?_, ?_, ?_⟩
  · exact starts_of_steps hopening.tag_eq hall
  · rw [hnow.runs_eq]
    exact hlater.past_ended
  · have hgrows := grows_of_steps hall
    have hlogger : now.logger = logger := hgrows.logger_eq
    have hclock : now.logClock = logClock := hgrows.clock_eq
    rw [hlogger, hclock] at hreports
    refine hreports.imp_right ?_
    rintro ⟨run, failure, hfirst, htrace⟩
    refine ⟨run, failure, failure.summary, hfirst, isQuoted_summary failure, ?_⟩
    rw [htrace, line_systemLogFailed]
  · -- A run of the round has a lower number than all that are started later.
    intro more next present added hmore hpresent run hmem hadded
    obtain ⟨others, hothers⟩ := logRuns_of_grows ending (grows_of_steps hmore)
    have hnext : run ∈ next.trace.logRuns ending := by
      rw [hothers, hlater.runs_eq]
      simp [hmem]
    have hordered := present.trace.pairwise_logRuns ending
    rw [hpresent] at hordered
    exact Nat.lt_irrefl _ ((List.pairwise_append.mp hordered).2.2 run hnext run hadded)

/-- The failures of a slow and of a quick run. -/
def slowFailure : Failure := .system .ordinary "slow"

/-- The failure of a quick run. -/
def quickFailure : Failure := .system .ordinary "quick"

/-- Two runs that fail, of which the second one does so first, and others that succeed after it. -/
def slowAndQuick : List (String × List CommandScript) :=
  [(systemLogCommand,
    [.ends (some 300) (.error slowFailure), .ends (some 100) (.error quickFailure), .ends (some 150) (.ok ())])]

/-- How long the slow, the quick and the other runs take, and how they end. -/
def slowAndQuickEnding : Nat → Option Int × Except Failure Unit
  | 0 => (some 300, .error slowFailure)
  | 1 => (some 100, .error quickFailure)
  | _ => (some 150, .ok ())

/-- The scripts of the slow and the quick run end like this. -/
theorem endsAs_slowAndQuick (logger : Logger) (logClock : LogClock) (tag : String) :
    EndsAs ((opening logger logClock (some tag) slowAndQuick).script systemLogCommand) slowAndQuickEnding where
  ends number := by
    match number with
    | 0 => rfl
    | 1 => rfl
    | 2 => rfl
    | number + 3 => rfl
  delay_nonneg number delay h := by
    match number with
    | 0 => cases h; decide
    | 1 => cases h; decide
    | number + 2 => cases h; decide
  speaks number failure h := by
    match number with
    | 0 => cases h; rfl
    | 1 => cases h; rfl
    | number + 2 => cases h

/-- The run that fails first is reported, though another one that fails was started before it. -/
theorem flush_reports_slowAndQuick :
    ∃ now later, (opening ⟨true, false⟩ (.fixed 0) (some "ntp") slowAndQuick).steps
        [.log .info "first", .wait 5, .log .debug "between", .log .error "second"] = some now ∧
      now.step .flush = some later ∧ 300 ≤ later.time ∧ later.trace = now.trace ++
        [(later.time, .line (timeStamp 0 ++ " " ++ "WARNING" ++ " Syslog write failed: " ++ "quick"))] := by
  obtain ⟨start, now, later, runs, hstart, hnow, hflush, -, hruns, hended, hreports, -⟩ :=
    flush_reports ⟨true, false⟩ (.fixed 0) "ntp" slowAndQuick slowAndQuickEnding (endsAs_slowAndQuick _ _ _) []
      [.log .info "first", .wait 5, .log .debug "between", .log .error "second"] (.inl rfl) (by simp)
  let slow : LogRun := ⟨0, 0, some 300, .error slowFailure⟩
  let quick : LogRun := ⟨1, 5, some 100, .error quickFailure⟩
  obtain rfl := Option.some.inj hstart
  obtain rfl : runs = [slow, quick] := by
    obtain rfl := Option.some.inj hnow
    exact hruns.symm
  have hrecent : now.trace.logRuns slowAndQuickEnding = [slow, quick] := hruns
  rw [hrecent] at hended
  refine ⟨now, later, hnow, hflush, hended slow (List.mem_cons_self ..), ?_⟩
  rcases hreports with ⟨hnone, -⟩ | ⟨run, failure, quoted, hfirst, hquoted, htrace⟩
  · exact absurd ⟨slowFailure, rfl⟩ (hnone slow (List.mem_cons_self ..))
  · obtain rfl : run = quick := by
      rcases List.mem_cons.mp hfirst.mem with rfl | hmem
      · -- The slow run does not precede the quick one.
        have hprecedes := hfirst.first quick (by simp) ⟨quickFailure, rfl⟩
        simp [LogRun.Precedes, LogRun.ended, slow, quick] at hprecedes
      · exact List.mem_singleton.mp hmem
    obtain rfl : quickFailure = failure := Except.error.inj hfirst.fails
    obtain rfl : "quick" = quoted := (isQuoted_iff "quick" quoted).mp hquoted
    exact htrace

end Scene

end Sntp
