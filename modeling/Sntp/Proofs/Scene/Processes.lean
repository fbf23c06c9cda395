import Mathlib.Data.List.TakeDrop
import Sntp.Proofs.Lists
import Sntp.Proofs.Process.Ending
import Sntp.Proofs.Scene.Agenda
import Sntp.Proofs.Scene.Growth

/-!
# Every process is waited for

Every command that a scene has started has ended, or is a write to the system log that is still
pending (`Accounts`): its end is then on the agenda if it ever comes. The books are kept by logging
(`Accounts.log`), by the passing of time (`Accounts.waitUntil`) and by a command in the foreground
that ends (`Accounts.runCommand`); when the system log has been waited for, nothing is pending, and
so every command has ended (`Accounts.flush`).
-/

set_option autoImplicit false

namespace Sntp

/-- A write stays pending when another one ends. -/
theorem SystemLog.mem_pending_settle {log : SystemLog} {run other : Nat} (result : Except Failure Unit)
    (hmem : run ∈ log.pending) (hne : other ≠ run) : run ∈ (log.settle other result).pending :=
  (List.mem_erase_of_ne hne.symm).mpr hmem

namespace Scene

/-- Whether a command that started at a time has ended, or is a pending write whose end, if it ever
comes, is on the agenda. -/
def Covers (scene : Scene) (launch : Launch) (start : Int) : Prop :=
  launch.HasEnded (scene.time - start) ∨
    ∃ run ∈ scene.systemLog.pending, ∀ ending ∈ scene.endings, ending.2.1 = run → launch.HasEnded (ending.1 - start)

/-- How the runs of a trace go, of which a command's first one goes by the first of its scripts, and so
on. -/
def Started (script : String → Nat → CommandScript) (trace : Trace) (launch : Launch) (start : Int) : Prop :=
  ∃ before name arguments after, trace = before ++ (start, .command name arguments) :: after ∧
    launch = (script name (Trace.runsOf name before)).launch name

/-- The numbers of writes are in order: no close is under way, without a system log nothing is pending,
and every write that is known has a number that was given. -/
structure Ledger (scene : Scene) : Prop where
  no_closing : scene.systemLog.closing = []
  untagged : scene.systemLogTag = none → scene.systemLog.pending = []
  pending_lt : ∀ run ∈ scene.systemLog.pending, run < scene.issued
  endings_lt : ∀ ending ∈ scene.endings, ending.2.1 < scene.issued

/-- The books of a scene: the numbers of writes are in order, and every command that was started has
ended or is a pending write. -/
structure Accounts (script : String → Nat → CommandScript) (scene : Scene) : Prop where
  ledger : scene.Ledger
  script_eq : ∀ name number, scene.script name number = script name (Trace.runsOf name scene.trace + number)
  covers : ∀ launch start, Started script scene.trace launch start → scene.Covers launch start

variable {script : String → Nat → CommandScript} {scene later : Scene} {kind : Effect → Prop}

/-- A run of a longer trace is one of its first part or one of what was added. -/
theorem started_append {first added : Trace} {launch : Launch} {start : Int}
    (h : Started script (first ++ added) launch start) :
    Started script first launch start ∨ ∃ before name arguments after,
      added = before ++ (start, .command name arguments) :: after ∧
        launch = (script name (Trace.runsOf name (first ++ before))).launch name := by
  obtain ⟨before, name, arguments, after, htrace, hlaunch⟩ := h
  rcases append_eq_append_cons htrace with ⟨rest, hfirst⟩ | ⟨rest, hbefore, hadded⟩
  · exact .inl ⟨before, name, arguments, rest, hfirst, hlaunch⟩
  · exact .inr ⟨rest, name, arguments, after, hadded, hbefore ▸ hlaunch⟩

/-- The books stay in order while no command is started, if all that was covered stays so. -/
theorem Accounts.of_grows (h : scene.Accounts script) (hgrows : scene.Grows kind later)
    (hkind : ∀ effect, kind effect → ∀ name, ¬ effect.IsRunOf name) (hledger : later.Ledger)
    (hcovers : ∀ launch start, scene.Covers launch start → later.Covers launch start) : later.Accounts script where
  ledger := hledger
  script_eq := by
    obtain ⟨added, htrace, -, hscript⟩ := hgrows.added
    intro name number
    rw [hscript, h.script_eq, htrace, Trace.runsOf_append, Nat.add_assoc]
  covers := by
    obtain ⟨added, htrace, hadded, -⟩ := hgrows.added
    intro launch start hstarted
    rw [htrace] at hstarted
    rcases started_append hstarted with hstarted | ⟨before, name, arguments, after, heq, -⟩
    · exact hcovers launch start (h.covers launch start hstarted)
    · have hmem : (start, Effect.command name arguments) ∈ added := by rw [heq]; simp
      exact absurd rfl (hkind _ (hadded _ hmem) name)

/-- They stay in order when a command has been started, if it is covered too. -/
theorem Accounts.of_launch (h : scene.Accounts script) {name : String} {arguments : List String}
    (hgrows : (scene.launch name arguments).2.Grows kind later)
    (hkind : ∀ effect, kind effect → ∀ name, ¬ effect.IsRunOf name) (hledger : later.Ledger)
    (hcovers : ∀ launch start, scene.Covers launch start → later.Covers launch start)
    (hnew : later.Covers (scene.launch name arguments).1 scene.time) : later.Accounts script where
  ledger := hledger
  script_eq := by
    obtain ⟨added, htrace, -, hscript⟩ :=
      ((scene.grows_launch name arguments trivial).trans (hgrows.mono fun _ _ => trivial)).added
    intro other number
    rw [hscript, h.script_eq, htrace, Trace.runsOf_append, Nat.add_assoc]
  covers := by
    obtain ⟨added, htrace, hadded, -⟩ := hgrows.added
    intro launch start hstarted
    rw [htrace, launch_trace] at hstarted
    rcases started_append hstarted with hstarted | ⟨before, other, others, after, heq, -⟩
    · rcases started_append hstarted with hstarted | ⟨before, other, others, after, heq, hlaunch⟩
      · exact hcovers launch start (h.covers launch start hstarted)
      · cases before with
        | nil =>
          -- The command that was just started: it goes by the next script.
          simp only [List.nil_append, List.cons.injEq, Prod.mk.injEq, Effect.command.injEq] at heq
          obtain ⟨⟨rfl, rfl, -⟩, -⟩ := heq
          rw [List.append_nil] at hlaunch
          rw [scene.launch_fst, h.script_eq, Nat.add_zero] at hnew
          exact hlaunch ▸ hnew
        | cons entry before => simp at heq
    · have hmem : (start, Effect.command other others) ∈ added := by rw [heq]; simp
      exact absurd rfl (hkind _ (hadded _ hmem) other)

/-- Letting time pass takes endings off the agenda in the order in which they are due. -/
theorem waitUntil_endings (scene : Scene) (time : Int) :
    ∃ ended, scene.endings = ended ++ (scene.waitUntil time).endings ∧ (∀ ending ∈ ended, ending.1 ≤ time) ∧
      (scene.waitUntil time).systemLog =
        ended.foldl (fun log ending => log.settle ending.2.1 ending.2.2) scene.systemLog := by
  refine ⟨scene.endings.takeWhile (·.1 ≤ time), ?_, ?_, ?_⟩
  · simp [waitUntil, List.span_eq_takeWhile_dropWhile]
  · intro ending hmem
    simpa using List.all_eq_true.mp (List.all_takeWhile (l := scene.endings)) ending hmem
  · simp [waitUntil, List.span_eq_takeWhile_dropWhile]

/-- Ends of writes take numbers from those that are pending, and leave the numbers of all others. -/
theorem pending_foldl_settle (ended : List (Int × Nat × Except Failure Unit)) (log : SystemLog) :
    let settled := ended.foldl (fun log ending => log.settle ending.2.1 ending.2.2) log
    (log.closing = [] → settled.closing = []) ∧ (∀ run ∈ settled.pending, run ∈ log.pending) ∧
      ∀ run ∈ log.pending, (∀ ending ∈ ended, ending.2.1 ≠ run) → run ∈ settled.pending := by
  induction ended generalizing log with
  | nil => exact ⟨id, fun _ h => h, fun _ h _ => h⟩
  | cons ending rest ih =>
    obtain ⟨hclosing, hsubset, hkept⟩ := ih (log.settle ending.2.1 ending.2.2)
    refine ⟨fun h => hclosing (by simp [SystemLog.settle, h]), fun run hmem => ?_, fun run hmem hne => ?_⟩
    · exact List.mem_of_mem_erase (hsubset run hmem)
    · exact hkept run (SystemLog.mem_pending_settle _ hmem (hne ending (by simp)))
        fun other hother => hne other (by simp [hother])

/-- What is covered stays so while time passes: an end that is due takes place. -/
theorem Covers.waitUntil {launch : Launch} {start : Int} (h : scene.Covers launch start) (time : Int) :
    (scene.waitUntil time).Covers launch start := by
  obtain ⟨ended, hendings, hdue, hlog⟩ := scene.waitUntil_endings time
  have htime : (scene.waitUntil time).time = max scene.time time := rfl
  rcases h with hended | ⟨run, hmem, hrun⟩
  · exact .inl (hended.mono (by rw [htime]; omega))
  · -- A pending write has its end among those that take place now, or goes on being pending.
    by_cases hsettled : ∃ ending ∈ ended, ending.2.1 = run
    · obtain ⟨ending, hending, hnumber⟩ := hsettled
      have hle := hdue ending hending
      refine .inl ((hrun ending (by rw [hendings]; simp [hending]) hnumber).mono ?_)
      rw [htime]
      omega
    · have hne : ∀ ending ∈ ended, ending.2.1 ≠ run := fun ending hending hnumber =>
        hsettled ⟨ending, hending, hnumber⟩
      refine .inr ⟨run, ?_, fun ending hending hnumber => hrun ending ?_ hnumber⟩
      · rw [hlog]
        exact (pending_foldl_settle ended scene.systemLog).2.2 run hmem hne
      · rw [hendings]
        simp [hending]

/-- The numbers of writes stay in order when time passes. -/
theorem Ledger.waitUntil (h : scene.Ledger) (time : Int) : (scene.waitUntil time).Ledger := by
  obtain ⟨ended, hendings, -, hlog⟩ := scene.waitUntil_endings time
  obtain ⟨hclosing, hsubset, -⟩ := pending_foldl_settle ended scene.systemLog
  refine ⟨?_, fun htag => ?_, fun run hmem => ?_, fun ending hmem => ?_⟩
  · rw [hlog]
    exact hclosing h.no_closing
  · rw [hlog, List.eq_nil_iff_forall_not_mem]
    intro run hmem
    have hpending := hsubset run hmem
    rw [h.untagged htag] at hpending
    cases hpending
  · rw [hlog] at hmem
    exact h.pending_lt run (hsubset run hmem)
  · exact h.endings_lt ending (by rw [hendings]; simp [hmem])

/-- The books stay in order when time passes. -/
theorem Accounts.waitUntil (h : scene.Accounts script) (time : Int) : (scene.waitUntil time).Accounts script := by
  have hgrows : scene.Grows (fun _ => False) (scene.waitUntil time) := scene.grows_waitUntil time
  exact h.of_grows hgrows (fun _ hkind => hkind.elim) (h.ledger.waitUntil time)
    fun _ _ hcovers => hcovers.waitUntil time

/-- The books stay in order when an effect is noted that starts no command. -/
theorem Accounts.record (h : scene.Accounts script) {effect : Effect} (hcommand : ∀ name, ¬ effect.IsRunOf name) :
    (scene.record effect).Accounts script :=
  h.of_grows (scene.grows_record rfl hcommand) (fun other hother name => (hother : effect = other) ▸ hcommand name)
    ⟨h.ledger.no_closing, h.ledger.untagged, h.ledger.pending_lt, h.ledger.endings_lt⟩ fun _ _ hcovers => hcovers

/-- The books stay in order when a line is written. -/
theorem Accounts.writeLine (h : scene.Accounts script) (level : Level) (message : String) :
    (scene.writeLine level message).Accounts script := h.record fun _ => id

/-- A command in the foreground that ends has ended. -/
theorem Accounts.runCommand (h : scene.Accounts script) {name : String} {arguments : List String}
    (hends : (scene.runCommand name arguments).1.isSome) : (scene.runCommand name arguments).2.Accounts script := by
  have hledger : (scene.launch name arguments).2.Ledger :=
    ⟨h.ledger.no_closing, h.ledger.untagged, h.ledger.pending_lt, h.ledger.endings_lt⟩
  have hcovers : ∀ launch start, scene.Covers launch start → (scene.launch name arguments).2.Covers launch start :=
    fun _ _ hcovers => hcovers
  have hstarted : (scene.launch name arguments).2.Covers (scene.launch name arguments).1 scene.time →
      (scene.launch name arguments).2.Accounts script :=
    h.of_launch (.refl (fun _ => False) _) (fun _ hkind => hkind.elim) hledger hcovers
  have hwaited : ∀ time, ((scene.launch name arguments).2.waitUntil time).Covers (scene.launch name arguments).1
      scene.time → ((scene.launch name arguments).2.waitUntil time).Accounts script := fun time =>
    h.of_launch (grows_waitUntil _ time) (fun _ (hkind : False) => hkind.elim) (hledger.waitUntil time)
      fun launch start hcovered => (hcovers launch start hcovered).waitUntil time
  have htime : (scene.launch name arguments).2.time = scene.time := rfl
  unfold Scene.runCommand at hends ⊢
  match hrun : scene.launch name arguments with
  | (.refused failure, after) =>
    rw [hrun] at hstarted
    exact hstarted (.inl trivial)
  | (.endedAtOnce result, after) =>
    rw [hrun] at hstarted
    exact hstarted (.inl trivial)
  | (.ends delay result, after) =>
    rw [hrun] at hwaited htime
    refine hwaited _ (.inl ?_)
    show delay ≤ max after.time (after.time + delay) - scene.time
    rw [htime]
    omega
  | (.neverEnds, after) => simp [hrun] at hends

/-- The numbers of writes stay in order when another one is given. -/
theorem Ledger.issueWrite (h : scene.Ledger) (htag : scene.systemLogTag ≠ none) : scene.issueWrite.2.Ledger where
  no_closing := h.no_closing
  untagged hnone := absurd hnone htag
  pending_lt run hmem := by
    rcases List.mem_append.mp hmem with hold | hnew
    · exact Nat.lt_succ_of_lt (h.pending_lt run hold)
    · exact List.mem_singleton.mp hnew ▸ Nat.lt_succ_self _
  endings_lt ending hmem := Nat.lt_succ_of_lt (h.endings_lt ending hmem)

/-- The numbers of writes stay in order when a write ends. -/
theorem Ledger.settle (h : scene.Ledger) (run : Nat) (result : Except Failure Unit) :
    ({ scene with systemLog := scene.systemLog.settle run result } : Scene).Ledger where
  no_closing := congrArg (List.map _) h.no_closing
  untagged hnone := congrArg (List.erase · run) (h.untagged hnone)
  pending_lt other hmem := h.pending_lt other (List.mem_of_mem_erase hmem)
  endings_lt := h.endings_lt

/-- The numbers of writes stay in order when the end of one is put on the agenda. -/
theorem Ledger.enter (h : scene.Ledger) (due : Int) {run : Nat} (hrun : run < scene.issued)
    (result : Except Failure Unit) :
    ({ scene with endings := scene.endings.enter due (run, result) } : Scene).Ledger where
  no_closing := h.no_closing
  untagged := h.untagged
  pending_lt := h.pending_lt
  endings_lt ending hmem := by
    rcases (Agenda.mem_enter ending _ _ _).mp hmem with rfl | hold
    · exact hrun
    · exact h.endings_lt ending hold

/-- What is covered stays so when a write is issued: the write has a number of its own. -/
theorem Covers.issueWrite {launch : Launch} {start : Int} (h : scene.Covers launch start) :
    scene.issueWrite.2.Covers launch start := by
  rcases h with hended | ⟨run, hmem, hrun⟩
  · exact .inl hended
  · exact .inr ⟨run, List.mem_append_left _ hmem, hrun⟩

/-- A command stays covered when another write is issued and ends at once. -/
theorem Covers.issueWrite_settle {launch : Launch} {start : Int} (h : scene.Covers launch start)
    (hledger : scene.Ledger) (result : Except Failure Unit) :
    ({ scene.issueWrite.2 with
        systemLog := scene.issueWrite.2.systemLog.settle scene.issued result } : Scene).Covers launch start := by
  rcases h with hended | ⟨run, hmem, hrun⟩
  · exact .inl hended
  · have hne : scene.issued ≠ run := Nat.ne_of_gt (hledger.pending_lt run hmem)
    exact .inr ⟨run, SystemLog.mem_pending_settle result (List.mem_append_left _ hmem) hne, hrun⟩

/-- A command stays covered when another write is issued and its end put on the agenda. -/
theorem Covers.issueWrite_enter {launch : Launch} {start : Int} (h : scene.Covers launch start)
    (hledger : scene.Ledger) (due : Int) (result : Except Failure Unit) :
    ({ scene.issueWrite.2 with
        endings := scene.endings.enter due (scene.issued, result) } : Scene).Covers launch start := by
  rcases h with hended | ⟨run, hmem, hrun⟩
  · exact .inl hended
  · refine .inr ⟨run, List.mem_append_left _ hmem, fun ending hending hnumber => ?_⟩
    rcases (Agenda.mem_enter ending _ _ _).mp hending with rfl | hold
    · exact absurd hnumber (Nat.ne_of_gt (hledger.pending_lt run hmem))
    · exact hrun ending hold hnumber

/-- A write that was just issued is covered if what is new on the agenda is the end of its command. -/
theorem Ledger.covers_issued (h : scene.Ledger) {launch : Launch} {start : Int}
    {endings : Agenda (Nat × Except Failure Unit)}
    (hnew : ∀ ending ∈ endings, ending ∈ scene.endings ∨ launch.HasEnded (ending.1 - start)) :
    ({ scene.issueWrite.2 with endings := endings } : Scene).Covers launch start := by
  refine .inr ⟨scene.issued, List.mem_append_right _ (List.mem_singleton.mpr rfl), fun ending hmem hnumber => ?_⟩
  rcases hnew ending hmem with hold | hended
  · exact absurd hnumber (Nat.ne_of_lt (h.endings_lt ending hold))
  · exact hended

/-- A write to the system log has ended, or is pending with its end on the agenda. -/
theorem Accounts.writeSystemLog (h : scene.Accounts script) (tag : String) (level : Level) (message : String)
    (htag : scene.systemLogTag ≠ none) : (scene.writeSystemLog tag level message).2.Accounts script := by
  -- The launch alone changes nothing that the books are about.
  have hledger : (scene.launch systemLogCommand (systemLogArguments tag level message)).2.Ledger :=
    ⟨h.ledger.no_closing, h.ledger.untagged, h.ledger.pending_lt, h.ledger.endings_lt⟩
  have hcovers : ∀ launch start, scene.Covers launch start →
      (scene.launch systemLogCommand (systemLogArguments tag level message)).2.Covers launch start :=
    fun _ _ hcovers => hcovers
  have hstarted : ∀ later, (scene.launch systemLogCommand (systemLogArguments tag level message)).2.Grows
      (fun _ => False) later → later.Ledger →
      (∀ launch start, scene.Covers launch start → later.Covers launch start) →
      later.Covers (scene.launch systemLogCommand (systemLogArguments tag level message)).1 scene.time →
      later.Accounts script := fun later hgrows =>
    h.of_launch hgrows fun _ hkind => hkind.elim
  have htime : (scene.launch systemLogCommand (systemLogArguments tag level message)).2.time = scene.time := rfl
  have htagged : (scene.launch systemLogCommand (systemLogArguments tag level message)).2.systemLogTag ≠ none := htag
  unfold Scene.writeSystemLog
  match hrun : scene.launch systemLogCommand (systemLogArguments tag level message) with
  | (.refused failure, after) =>
    rw [hrun] at hstarted hledger hcovers
    exact hstarted after (.refl _ _) hledger hcovers (.inl trivial)
  | (.endedAtOnce result, after) =>
    rw [hrun] at hstarted hledger hcovers htagged
    refine hstarted _ (after.grows_of_eq rfl rfl rfl (Int.le_refl _) rfl rfl) ?_ ?_ (.inl trivial)
    · exact (hledger.issueWrite htagged).settle after.issued result
    · exact fun launch start hcovered => (hcovers launch start hcovered).issueWrite_settle hledger result
  | (.ends delay result, after) =>
    rw [hrun] at hstarted hledger hcovers htime htagged
    refine hstarted _ (after.grows_of_eq rfl rfl rfl (Int.le_refl _) rfl rfl) ?_ ?_ ?_
    · exact (hledger.issueWrite htagged).enter _ (Nat.lt_succ_self _) result
    · exact fun launch start hcovered => (hcovers launch start hcovered).issueWrite_enter hledger _ result
    · refine hledger.covers_issued fun ending hmem => ?_
      rcases (Agenda.mem_enter ending _ _ _).mp hmem with rfl | hold
      · refine .inr ?_
        show delay ≤ after.time + delay - scene.time
        rw [htime]
        omega
      · exact .inl hold
  | (.neverEnds, after) =>
    rw [hrun] at hstarted hledger hcovers htagged
    refine hstarted _ (after.grows_of_eq rfl rfl rfl (Int.le_refl _) rfl rfl) (hledger.issueWrite htagged) ?_ ?_
    · exact fun launch start hcovered => (hcovers launch start hcovered).issueWrite
    · exact hledger.covers_issued fun ending hmem => .inl hmem

/-- The books stay in order when a message is logged. -/
theorem Accounts.log (h : scene.Accounts script) (level : Level) (message : String) :
    (scene.log level message).2.Accounts script := by
  have hwritten : (if scene.logger.writes level then scene.writeLine level message else scene).Accounts script := by
    by_cases hwrites : scene.logger.writes level
    · rw [if_pos hwrites]
      exact h.writeLine level message
    · rw [if_neg hwrites]
      exact h
  have htag : (if scene.logger.writes level then scene.writeLine level message else scene).systemLogTag =
      scene.systemLogTag := by
    split <;> rfl
  unfold Scene.log
  simp only []
  cases hsystem : scene.systemLogTag with
  | none => exact hwritten
  | some tag =>
    by_cases hdebug : level = .debug
    · simp only [if_pos hdebug]
      exact hwritten
    · simp only [if_neg hdebug]
      exact hwritten.writeSystemLog tag level message (by rw [htag, hsystem]; simp)

/-- A close that wakes up was waiting for nothing more. -/
theorem awaited_of_wake? {close : Nat} {log : SystemLog} {awaited : List Nat} {woken : Option Failure × SystemLog}
    (hawaited : log.closing = [(close, awaited)]) (h : log.wake? close = some woken) : awaited = [] := by
  unfold SystemLog.wake? at h
  rw [hawaited] at h
  by_cases hempty : awaited = []
  · exact hempty
  · simp [hempty] at h

/-- A close returns only when every write that it waits for has ended: its end was on the agenda and
is due. -/
theorem awaitClose_ended {close : Nat} {log log' : SystemLog} {time time' : Int} {failure : Option Failure}
    {endings endings' : Agenda (Nat × Except Failure Unit)} {awaited : List Nat}
    (hawaited : log.closing = [(close, awaited)])
    (h : awaitClose close log time endings = some (failure, log', time', endings')) :
    ∀ run ∈ awaited, ∃ ending ∈ endings, ending.2.1 = run ∧ ending.1 ≤ time' := by
  induction endings generalizing log time awaited with
  | nil =>
    unfold awaitClose at h
    cases hwoken : log.wake? close with
    | none => simp [hwoken] at h
    | some woken =>
      rw [awaited_of_wake? hawaited hwoken]
      simp
  | cons ending rest ih =>
    obtain ⟨due, settled, result⟩ := ending
    unfold awaitClose at h
    cases hwoken : log.wake? close with
    | some woken =>
      rw [awaited_of_wake? hawaited hwoken]
      simp
    | none =>
      simp only [hwoken] at h
      intro run hmem
      by_cases hrun : settled = run
      · have hle := awaitClose_time_le h
        exact ⟨(due, settled, result), by simp, hrun, by simp only; omega⟩
      · -- The close goes on with one write less to wait for, which is not the one in question.
        have hremaining : (log.settle settled result).closing = [(close, awaited.erase settled)] := by
          simp [SystemLog.settle, hawaited]
        obtain ⟨ending, hending, hnumber, hdue⟩ :=
          ih hremaining h run ((List.mem_erase_of_ne (Ne.symm hrun)).mpr hmem)
        exact ⟨ending, by simp [hending], hnumber, hdue⟩

/-- When a close has returned, whatever was covered has ended. -/
theorem Covers.closeSystemLog {launch : Launch} {start : Int} (h : scene.Covers launch start)
    (hclosing : scene.systemLog.closing = []) {failure : Option Failure}
    (hcloses : scene.closeSystemLog.1 = some failure) : launch.HasEnded (scene.closeSystemLog.2.time - start) := by
  have hawaited : (scene.systemLog.close scene.issued).closing = [(scene.issued, scene.systemLog.pending)] := by
    simp [SystemLog.close, hclosing]
  unfold Scene.closeSystemLog at hcloses ⊢
  match hwait : awaitClose scene.issued (scene.systemLog.close scene.issued) scene.time scene.endings with
  | none => simp [hwait] at hcloses
  | some (first, systemLog, time, endings) =>
    have hle := awaitClose_time_le hwait
    simp only [hwait]
    rcases h with hended | ⟨run, hmem, hrun⟩
    · exact hended.mono (by omega)
    · obtain ⟨ending, hending, hnumber, hdue⟩ := awaitClose_ended hawaited hwait run hmem
      exact (hrun ending hending hnumber).mono (by omega)

/-- When the system log has been waited for, every command that was started has ended. -/
theorem Accounts.flush (h : scene.Accounts script) (hflush : scene.flush.1 = some ()) {launch : Launch} {start : Int}
    (hstarted : Started script scene.trace launch start) : launch.HasEnded (scene.flush.2.time - start) := by
  unfold Scene.flush at hflush ⊢
  cases htag : scene.systemLogTag with
  | none =>
    rcases h.covers launch start hstarted with hended | ⟨run, hmem, -⟩
    · exact hended
    · rw [h.ledger.untagged htag] at hmem
      cases hmem
  | some tag =>
    rw [htag] at hflush
    simp only [] at hflush ⊢
    have hclosed : ∀ failure, scene.closeSystemLog.1 = some failure →
        launch.HasEnded (scene.closeSystemLog.2.time - start) := fun _ hcloses =>
      (h.covers launch start hstarted).closeSystemLog h.ledger.no_closing hcloses
    match hclose : scene.closeSystemLog with
    | (none, after) => simp [hclose] at hflush
    | (some none, after) =>
      rw [hclose] at hclosed
      exact hclosed none rfl
    | (some (some failure), after) =>
      rw [hclose] at hclosed
      by_cases hempty : failure.isEmpty
      · simp only [if_pos hempty]
        exact hclosed (some failure) rfl
      · simp only [if_neg hempty]
        exact hclosed (some failure) rfl

/-- The books of a scene are in order at its opening. -/
theorem accounts_opening (logger : Logger) (logClock : LogClock) (systemLogTag : Option String)
    (scripts : List (String × List CommandScript)) :
    (opening logger logClock systemLogTag scripts).Accounts
      (opening logger logClock systemLogTag scripts).script where
  ledger := ⟨rfl, fun _ => rfl, nofun, nofun⟩
  script_eq name number := by simp [opening, Trace.runsOf]
  covers launch start h := by
    obtain ⟨before, name, arguments, after, htrace, -⟩ := h
    cases before <;> cases htrace

end Scene

end Sntp
