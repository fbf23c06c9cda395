import Sntp.Simulation.Command

/-!
# When a command ends

A process ends with the first of its events that is a close or an error (`watchFrom_time`), so that a
started command has ended by a time exactly if its script says so (`launch_hasEnded_iff`).
-/

set_option autoImplicit false

namespace Sntp

/-- Whether an event ends a command. -/
def ProcessEvent.isEnding : ProcessEvent → Bool
  | .chunk _ _ => false
  | .closed _ => true
  | .failed _ => true

/-- The first event that ends a process, with its time, of events in the order in which they happen. -/
def firstEnding? (events : List (Int × ProcessEvent)) : Option (Int × ProcessEvent) :=
  events.find? fun event => event.2.isEnding

/-- A process is watched until the first event that ends it. -/
theorem watchFrom_time (command : String) (m : Monitor) (events : List (Int × ProcessEvent)) :
    (watchFrom command m events).map Prod.fst = (firstEnding? events).map Prod.fst := by
  unfold firstEnding?
  induction events generalizing m with
  | nil => rfl
  | cons event rest ih =>
    obtain ⟨time, event⟩ := event
    cases event with
    | chunk stream bytes => exact ih (m.take stream bytes)
    | closed code => rfl
    | failed failure => rfl

/-- Whether a command has ended when some time has passed since its start. A refused command never
was a process. -/
def CommandScript.HasEnded (script : CommandScript) (elapsed : Int) : Prop :=
  match script with
  | .refused _ => True
  | .ends none _ => True
  | .ends (some delay) _ => delay ≤ elapsed
  | .process events => ∃ event, firstEnding? (Agenda.ofList events) = some event ∧ event.1 ≤ elapsed

/-- The same of a command whose end is known. -/
def Launch.HasEnded : Launch → Int → Prop
  | .refused _, _ => True
  | .endedAtOnce _, _ => True
  | .ends after _, elapsed => after ≤ elapsed
  | .neverEnds, _ => False

/-- A command that has ended has ended at all later times. -/
theorem Launch.HasEnded.mono {launch : Launch} {elapsed later : Int} (h : launch.HasEnded elapsed)
    (hle : elapsed ≤ later) : launch.HasEnded later := by
  cases launch with
  | refused failure => trivial
  | endedAtOnce result => trivial
  | ends after result => exact Int.le_trans h hle
  | neverEnds => exact h

/-- A launched command has ended when its script has. -/
theorem CommandScript.launch_hasEnded_iff (script : CommandScript) (command : String) (elapsed : Int) :
    (script.launch command).HasEnded elapsed ↔ script.HasEnded elapsed := by
  cases script with
  | refused failure => exact Iff.rfl
  | ends delay result => cases delay <;> exact Iff.rfl
  | process events =>
    have htime := watchFrom_time command Monitor.start (Agenda.ofList events)
    cases hwatch : watchFrom command Monitor.start (Agenda.ofList events) with
    | none =>
      have hlaunch : (CommandScript.process events).launch command = .neverEnds := by
        simp only [CommandScript.launch, watch, hwatch]
      rw [hwatch, Option.map_none, eq_comm, Option.map_eq_none_iff] at htime
      rw [hlaunch]
      simp [CommandScript.HasEnded, htime, Launch.HasEnded]
    | some ending =>
      obtain ⟨after, result⟩ := ending
      have hlaunch : (CommandScript.process events).launch command = .ends after (result.map fun _ => ()) := by
        simp only [CommandScript.launch, watch, hwatch]
      rw [hwatch, Option.map_some, eq_comm, Option.map_eq_some_iff] at htime
      obtain ⟨event, hevent, rfl⟩ := htime
      rw [hlaunch]
      simp [CommandScript.HasEnded, hevent, Launch.HasEnded]

end Sntp
