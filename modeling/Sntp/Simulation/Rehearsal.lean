import Sntp.Simulation.Scene
import Sntp.Sync.Synchronize

/-!
# Rehearsals

In a rehearsal the answers to queries are given in advance, and pauses are only noted. The clock
setter is either an actor that notes the time it is given and then does as a function of it tells, or
a real one whose commands are scripted.
-/

set_option autoImplicit false

namespace Sntp

/-- What sets the clock in a rehearsal. -/
inductive RehearsedSetter where
  /-- Notes the time, and then ends as is told for that time, or never. -/
  | actor (method : String) (behaviour : Number → Option (Except Failure Unit))
  | real (setter : ClockSetter)

/-- A setter that notes the time, and then fails if a failure is given. -/
def RehearsedSetter.standIn (method : String) (failure : Option Failure) : RehearsedSetter :=
  .actor method fun _ => some (match failure with
    | none => .ok ()
    | some failure => .error failure)

/-- What the clock is said to be set with. -/
def RehearsedSetter.method : RehearsedSetter → String
  | actor method _ => method
  | real setter => setter.method

/-- A scene with the answers that are given in advance. -/
structure Rehearsal where
  scene : Scene
  privileged : Bool
  setter : RehearsedSetter
  /-- The answers to the next queries, the last of which stays. -/
  replies : List (Except Failure Exchange)

namespace Rehearsal

/-- The answer to a query for which none was given. -/
def noReply : Except Failure Exchange := .error (.datum .null)

/-- Notes an effect. -/
def record (r : Rehearsal) (effect : Effect) : Rehearsal := { r with scene := r.scene.record effect }

/-- Sets the clock with the setter of the rehearsal, an actor or one that gives a command. -/
def setClock (r : Rehearsal) (ms : Number) : Option (Except Failure Unit) × Rehearsal :=
  match r.setter with
  | .actor _ behaviour => (behaviour ms, r.record (.setClock ms))
  | .real setter =>
    match setter.command ms with
    | .error failure => (some (.error failure), r)
    | .ok arguments =>
      let (result, scene) := r.scene.runCommand ClockSetter.dateCommandName arguments
      (result.map setter.conclude, { r with scene })

/-- The rehearsal as the world of a run: it answers with what is given in advance, and takes no time to query. -/
def world : World Rehearsal
  | .log level message, r =>
    let (result, scene) := r.scene.log level message
    (some result, { r with scene })
  | .query server timeoutMs, r =>
    let (reply, replies) := nextScript noReply r.replies
    (some reply, { r.record (.query server timeoutMs) with replies })
  | .sleep ms, r => (some (), r.record (.sleep ms))
  | .isPrivileged, r => (some r.privileged, r.record .askPrivilege)
  | .setClock timeMs, r => r.setClock timeMs

/-- Carries out a task in a rehearsal. -/
def perform {α : Type} (r : Rehearsal) (task : Task α) : Option (Except Failure α) × Rehearsal := task.run.run world r

end Rehearsal

end Sntp
