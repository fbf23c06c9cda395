import Sntp.Proofs.Process.Success

/-!
# How a watched command ends

What a process did before it ended comes down to two texts: its output, chunk after chunk (`outputOf`), and
what it said about errors (`saidBy`). The two are all that a monitor takes in (`watchFrom_append`), and the
second is empty exactly if all events were silent (`saidBy_eq_nil_iff`).

So the first event that ends a process decides how its command ends, together with the events before it
(`watch_first_ending`); nothing that happens later matters, and without such an event there is no end.
-/

set_option autoImplicit false

namespace Sntp

open Text

namespace ProcessEvent

/-- The text that an event adds to the output. -/
def outputText : ProcessEvent → Chars
  | .chunk .output bytes => ofUtf8 bytes
  | _ => []

/-- What a process has said about errors after an event, `said` before it: the error stream goes on where it
stands, without its formatting, and a chunk of output that complains begins a new line. -/
def saidAfter (said : Chars) : ProcessEvent → Chars
  | .chunk .errors bytes => said ++ stripFormatting (ofUtf8 bytes)
  | .chunk .output bytes =>
    if isComplaint (ofUtf8 bytes) then
      if said = [] then ofUtf8 bytes else said ++ ['\n'] ++ ofUtf8 bytes
    else said
  | .closed _ => said
  | .failed _ => said

end ProcessEvent

/-- The output that events write, put together. -/
def outputOf (events : List (Int × ProcessEvent)) : Chars := events.flatMap fun event => event.2.outputText

/-- What events say about errors, folded in their order, after what was said before. -/
def saidAfter (said : Chars) (events : List (Int × ProcessEvent)) : Chars :=
  events.foldl (fun said event => event.2.saidAfter said) said

/-- What events say about errors. -/
def saidBy (events : List (Int × ProcessEvent)) : Chars := saidAfter [] events

/-- Whether a close counts as a success: there is no exit code but zero, and all before was silent. -/
def IsSuccess (code : Option Int) (before : List (Int × ProcessEvent)) : Prop :=
  (code = none ∨ code = some 0) ∧ ∀ event ∈ before, event.2.IsSilent

/-- Why a command that closed has failed: what it said about errors, or the exit code if it said nothing
visible and there is one. -/
def failureReason (command : String) (code : Option Int) (said : Chars) : Chars :=
  match code with
  | some n =>
    if n ≠ 0 ∧ trim said = [] then command.toList ++ " exited with code ".toList ++ Number.integerChars n
    else trim said
  | none => trim said

namespace Monitor

/-- A chunk is taken for what it adds to the output and to the complaints. -/
theorem take_eq (m : Monitor) (stream : Stream) (bytes : Bytes) :
    m.take stream bytes =
      ⟨m.output ++ (ProcessEvent.chunk stream bytes).outputText,
        (ProcessEvent.chunk stream bytes).saidAfter m.complaints⟩ := by
  cases stream with
  | errors => simp [take, ProcessEvent.outputText, ProcessEvent.saidAfter]
  | output => simp [take, addComplaint, ProcessEvent.outputText, ProcessEvent.saidAfter]

/-- A close without a failing exit code is judged by what was said before. -/
theorem conclude_of_success (m : Monitor) (command : String) {code : Option Int} (hcode : code = none ∨ code = some 0) :
    m.conclude command code =
      if m.complaints = [] then .ok (String.ofList m.output)
      else .error (complaint (failureReason command code m.complaints)) := by
  rcases hcode with rfl | rfl <;> rfl

/-- A close with a failing exit code is a failure. -/
theorem conclude_of_failure (m : Monitor) (command : String) {code : Option Int} (hcode : ¬ (code = none ∨ code = some 0)) :
    m.conclude command code = .error (complaint (failureReason command code m.complaints)) := by
  cases code with
  | none => exact absurd (.inl rfl) hcode
  | some n =>
    have hn : n ≠ 0 := fun hzero => hcode (.inr (congrArg some hzero))
    have hfilter : (some n).filter (· ≠ 0) = some n := by simp [hn]
    unfold conclude failureReason
    rw [hfilter]
    by_cases hsaid : trim m.complaints = []
    · simp only [if_pos hsaid, if_pos (And.intro hn hsaid)]
    · simp only [if_neg hsaid, if_neg fun h : n ≠ 0 ∧ _ => hsaid h.2]

end Monitor

/-- What is said about errors after events is nothing exactly if nothing was said before and the events are silent. -/
theorem saidAfter_eq_nil_iff (said : Chars) (events : List (Int × ProcessEvent)) :
    saidAfter said events = [] ↔ said = [] ∧ ∀ event ∈ events, event.2.IsSilent := by
  induction events generalizing said with
  | nil => simp [saidAfter]
  | cons event rest ih =>
    obtain ⟨time, event⟩ := event
    have hstep : event.saidAfter said = [] ↔ said = [] ∧ event.IsSilent := by
      cases event with
      | chunk stream bytes =>
        have htake := Monitor.take_complaints_eq_nil_iff ⟨[], said⟩ stream bytes
        rwa [Monitor.take_eq] at htake
      | closed code => simp [ProcessEvent.saidAfter, ProcessEvent.IsSilent]
      | failed failure => simp [ProcessEvent.saidAfter, ProcessEvent.IsSilent]
    have hfold : saidAfter said ((time, event) :: rest) = saidAfter (event.saidAfter said) rest := rfl
    rw [hfold, ih, hstep, List.forall_mem_cons, and_assoc]

/-- Nothing is complained about exactly if every event is silent. -/
theorem saidBy_eq_nil_iff (events : List (Int × ProcessEvent)) :
    saidBy events = [] ↔ ∀ event ∈ events, event.2.IsSilent := by
  simp [saidBy, saidAfter_eq_nil_iff]

/-- Events that do not end the process leave a monitor with their output and with what they say about errors. -/
theorem watchFrom_append (command : String) (m : Monitor) {before : List (Int × ProcessEvent)}
    (hbefore : ∀ event ∈ before, event.2.isEnding = false) (rest : List (Int × ProcessEvent)) :
    watchFrom command m (before ++ rest) =
      watchFrom command ⟨m.output ++ outputOf before, saidAfter m.complaints before⟩ rest := by
  induction before generalizing m with
  | nil => simp [outputOf, saidAfter]
  | cons event before ih =>
    obtain ⟨hevent, hrest⟩ := List.forall_mem_cons.mp hbefore
    obtain ⟨time, event⟩ := event
    cases event with
    | chunk stream bytes =>
      calc watchFrom command m ((time, .chunk stream bytes) :: before ++ rest)
          = watchFrom command (m.take stream bytes) (before ++ rest) := rfl
        _ = watchFrom command ⟨(m.take stream bytes).output ++ outputOf before,
              saidAfter (m.take stream bytes).complaints before⟩ rest := ih _ hrest
        _ = _ := by
          rw [m.take_eq]
          simp [outputOf, saidAfter]
    | closed code => cases hevent
    | failed failure => cases hevent

/-- What a monitor has seen after events that do not end the process. -/
def monitorAfter (before : List (Int × ProcessEvent)) : Monitor := ⟨outputOf before, saidBy before⟩

/-- After events that do not end the command, a watch goes on with what it has gathered from them. -/
theorem watch_append (command : String) {before : List (Int × ProcessEvent)}
    (hbefore : ∀ event ∈ before, event.2.isEnding = false) (rest : List (Int × ProcessEvent)) :
    watch command (before ++ rest) = watchFrom command (monitorAfter before) rest :=
  watchFrom_append command Monitor.start hbefore rest

section Closing

variable (command : String) (code : Option Int) (before : List (Int × ProcessEvent))

/-- A close that counts as a success gives all of the output. -/
theorem conclude_of_isSuccess (h : IsSuccess code before) :
    (monitorAfter before).conclude command code = .ok (String.ofList (outputOf before)) := by
  obtain ⟨hcode, hsilent⟩ := h
  rw [Monitor.conclude_of_success _ command hcode]
  exact if_pos ((saidBy_eq_nil_iff before).mpr hsilent)

/-- Any other close gives the reason of the failure. -/
theorem conclude_of_not_isSuccess (h : ¬ IsSuccess code before) :
    (monitorAfter before).conclude command code =
      .error (.system .ordinary (String.ofList (failureReason command code (saidBy before)))) := by
  by_cases hcode : code = none ∨ code = some 0
  · have hsaid : saidBy before ≠ [] := fun hnil => h ⟨hcode, (saidBy_eq_nil_iff before).mp hnil⟩
    rw [Monitor.conclude_of_success _ command hcode]
    exact if_neg hsaid
  · exact Monitor.conclude_of_failure _ command hcode

end Closing

/-- A process that has not ended has no outcome. The first event that ends it decides the outcome, whatever happens
later: an error is the failure itself. A close is a success exactly if there is no exit code but zero, nothing visible
on the error stream and no chunk of output that complains, and then the output is all that was written to it. Any other
close is a failure, which tells what the process said about errors, or its exit code if it said nothing visible. -/
theorem watch_first_ending (command : String) (before later : List (Int × ProcessEvent)) (time : Int)
    (hbefore : ∀ event ∈ before, event.2.isEnding = false) :
    watch command before = none ∧
      (∀ failure, watch command (before ++ (time, .failed failure) :: later) = some (time, .error failure)) ∧
      ∀ code,
        ((∃ output, watch command (before ++ (time, .closed code) :: later) = some (time, .ok output)) ↔
          IsSuccess code before) ∧
        (IsSuccess code before →
          watch command (before ++ (time, .closed code) :: later) =
            some (time, .ok (String.ofList (outputOf before)))) ∧
        (¬ IsSuccess code before →
          watch command (before ++ (time, .closed code) :: later) =
            some (time, .error (.system .ordinary (String.ofList (failureReason command code (saidBy before)))))) := by
  refine ⟨?_, fun failure => watch_append command hbefore _, fun code => ?_⟩
  · have hnone := watch_append command hbefore []
    rwa [List.append_nil] at hnone
  have hclosed : watch command (before ++ (time, .closed code) :: later) =
      some (time, (monitorAfter before).conclude command code) := watch_append command hbefore _
  rw [hclosed]
  by_cases hsuccess : IsSuccess code before
  · rw [conclude_of_isSuccess command code before hsuccess]
    exact ⟨iff_of_true ⟨_, rfl⟩ hsuccess, fun _ => rfl, fun hfailed => absurd hsuccess hfailed⟩
  · rw [conclude_of_not_isSuccess command code before hsuccess]
    exact ⟨iff_of_false (by simp) hsuccess, fun h => absurd h hsuccess, fun _ => rfl⟩

/-- The bytes of a text of ASCII characters. -/
def asciiBytes (text : String) : Bytes := text.toList.map fun c => c.toNat.toUInt8

/-- A complaint in the output, and then a word in color on the error stream. -/
def complainingTwice : List (Int × ProcessEvent) :=
  [(0, .chunk .output (asciiBytes "date: invalid date\n")), (1, .chunk .errors (asciiBytes "\x1b[91moops\x1b[39m"))]

/-- A command that complains in both ways and then closes fails with both complaints, on two lines, although it
reports an error after that. -/
theorem watch_first_ending_complainingTwice :
    (∀ event ∈ complainingTwice, event.2.isEnding = false) ∧ ¬ IsSuccess (some 1) complainingTwice ∧
      watch "date" (complainingTwice ++ (2, .closed (some 1)) :: [(3, .failed (.datum .null))]) =
        some (2, .error (.system .ordinary "date: invalid date\noops")) := by
  have hbefore : ∀ event ∈ complainingTwice, event.2.isEnding = false := by decide
  have hfailed : ¬ IsSuccess (some 1) complainingTwice := by
    rintro ⟨hcode, -⟩
    exact absurd hcode (by decide)
  have hreason : failureReason "date" (some 1) (saidBy complainingTwice) = "date: invalid date\noops".toList := by
    decide +kernel
  obtain ⟨-, -, hclosed⟩ := watch_first_ending "date" complainingTwice [(3, .failed (.datum .null))] 2 hbefore
  refine ⟨hbefore, hfailed, ?_⟩
  rw [(hclosed (some 1)).2.2 hfailed, hreason, String.ofList_toList]

end Sntp
