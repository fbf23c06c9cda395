import Sntp.Proofs.Process.Ending

/-!
# When a command has succeeded

A process has succeeded exactly if the first event that ends it is a close without an exit code other
than zero, and it said nothing before: nothing visible on its error stream, and no complaint in its output
(`watchFrom_ok_iff`). A close without any exit code, by which a signal shows, is as good as one with the code
zero. `CommandScript.EndsWell` says the same of a script (`result?_eq_ok_iff`).
-/

set_option autoImplicit false

namespace Sntp

open Text

/-- Whether a chunk leaves the monitor without a complaint; events that are no chunks do. -/
def ProcessEvent.IsSilent : ProcessEvent → Prop
  | .chunk .errors bytes => stripFormatting (ofUtf8 bytes) = []
  | .chunk .output bytes => isComplaint (ofUtf8 bytes) = false
  | .closed _ => True
  | .failed _ => True

namespace Monitor

/-- A monitor is without complaints after a chunk exactly if it was before and the chunk is silent. -/
theorem take_complaints_eq_nil_iff (m : Monitor) (stream : Stream) (bytes : Bytes) :
    (m.take stream bytes).complaints = [] ↔ m.complaints = [] ∧ (ProcessEvent.chunk stream bytes).IsSilent := by
  cases stream with
  | errors => exact List.append_eq_nil_iff
  | output =>
    show (if isComplaint (ofUtf8 bytes) then addComplaint m.complaints (ofUtf8 bytes) else m.complaints) = [] ↔
      m.complaints = [] ∧ isComplaint (ofUtf8 bytes) = false
    cases hcomplaint : isComplaint (ofUtf8 bytes) with
    | false => simp
    | true =>
      have hchunk : ofUtf8 bytes ≠ [] := by
        intro hempty
        rw [hempty] at hcomplaint
        cases hcomplaint
      unfold addComplaint
      by_cases hnone : m.complaints = [] <;> simp [hnone, hchunk]

/-- A command that closed has succeeded exactly if there is no exit code but zero and no complaint. -/
theorem conclude_ok_iff (m : Monitor) (command : String) (code : Option Int) :
    (∃ output, m.conclude command code = .ok output) ↔ (code = none ∨ code = some 0) ∧ m.complaints = [] := by
  unfold conclude
  cases code with
  | none =>
    simp only [Option.filter_none]
    by_cases hnone : m.complaints = [] <;> simp [hnone]
  | some n =>
    by_cases hzero : n = 0
    · subst hzero
      have hfilter : (some (0 : Int)).filter (· ≠ 0) = none := rfl
      rw [hfilter]
      by_cases hnone : m.complaints = [] <;> simp [hnone]
    · have hfilter : (some n).filter (· ≠ 0) = some n := by simp [hzero]
      rw [hfilter]
      constructor
      · rintro ⟨output, h⟩
        cases h
      · rintro ⟨h | h, -⟩
        · cases h
        · exact absurd (Option.some.inj h) hzero

end Monitor

/-- Whether a process that does this ends well: the first of its ends is a close without an exit code
other than zero, and all before is silent. -/
def EndWell (events : List (Int × ProcessEvent)) (time : Int) : Prop :=
  (∃ code, firstEnding? events = some (time, .closed code) ∧ (code = none ∨ code = some 0)) ∧
    ∀ event ∈ events.takeWhile fun event => !event.2.isEnding, event.2.IsSilent

/-- A watch that goes on succeeds exactly if nothing was complained about before and the rest of the events ends well. -/
theorem watchFrom_ok_iff (command : String) (m : Monitor) (events : List (Int × ProcessEvent)) (time : Int) :
    (∃ output, watchFrom command m events = some (time, .ok output)) ↔ m.complaints = [] ∧ EndWell events time := by
  unfold EndWell firstEnding?
  induction events generalizing m with
  | nil => simp [watchFrom]
  | cons event rest ih =>
    obtain ⟨start, event⟩ := event
    cases event with
    | chunk stream bytes =>
      -- The rest is watched with what the chunk adds to the complaints, hence for every monitor.
      rw [watchFrom, ih, Monitor.take_complaints_eq_nil_iff]
      simp only [List.find?_cons, List.takeWhile_cons, ProcessEvent.isEnding, Bool.not_false, if_true,
        List.forall_mem_cons]
      constructor
      · rintro ⟨⟨hnone, hsilent⟩, hending, hrest⟩
        exact ⟨hnone, hending, hsilent, hrest⟩
      · rintro ⟨hnone, hending, hsilent, hrest⟩
        exact ⟨⟨hnone, hsilent⟩, hending, hrest⟩
    | closed code =>
      have hconclude := m.conclude_ok_iff command code
      constructor
      · rintro ⟨output, h⟩
        simp only [watchFrom, Option.some.injEq, Prod.mk.injEq] at h
        obtain ⟨rfl, hok⟩ := h
        obtain ⟨hcode, hnone⟩ := hconclude.mp ⟨output, hok⟩
        exact ⟨hnone, ⟨code, rfl, hcode⟩, by simp [ProcessEvent.isEnding]⟩
      · rintro ⟨hnone, ⟨code', hending, hcode⟩, -⟩
        simp only [List.find?_cons, ProcessEvent.isEnding, Option.some.injEq, Prod.mk.injEq,
          ProcessEvent.closed.injEq] at hending
        obtain ⟨rfl, rfl⟩ := hending
        obtain ⟨output, hok⟩ := hconclude.mpr ⟨hcode, hnone⟩
        exact ⟨output, by rw [watchFrom, hok]⟩
    | failed failure => simp [watchFrom, ProcessEvent.isEnding]

/-- Whether a command that goes by a script ends well. -/
def CommandScript.EndsWell : CommandScript → Prop
  | .refused _ => False
  | .ends _ result => result = .ok ()
  | .process events => ∃ time, EndWell (Agenda.ofList events) time

namespace Launch

/-- How a started command ends, if it does. -/
def result? : Launch → Option (Except Failure Unit)
  | .refused failure => some (.error failure)
  | .endedAtOnce result => some result
  | .ends _ result => some result
  | .neverEnds => none

end Launch

namespace CommandScript

variable (script : CommandScript) (command : String)

/-- A command ends with success exactly if its script ends well. -/
theorem result?_eq_ok_iff : (script.launch command).result? = some (.ok ()) ↔ script.EndsWell := by
  cases script with
  | refused failure => simp [launch, Launch.result?, EndsWell]
  | ends delay result => cases delay <;> simp [launch, Launch.result?, EndsWell]
  | process events =>
    have hwatch := fun time => watchFrom_ok_iff command Monitor.start (Agenda.ofList events) time
    simp only [Monitor.start, true_and] at hwatch
    simp only [EndsWell, ← hwatch, launch, watch, Monitor.start]
    cases watchFrom command ⟨[], []⟩ (Agenda.ofList events) with
    | none => simp [Launch.result?]
    | some ending =>
      obtain ⟨time, result⟩ := ending
      cases result <;> simp [Launch.result?, Except.map]

end CommandScript

end Sntp
