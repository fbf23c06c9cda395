import Sntp.Process.Monitor
import Sntp.Simulation.Agenda

/-!
# Simulated commands

The script of a command says how one run of it goes: it is refused at once, it ends at once or after
a while, or it is a process whose events are watched. Scripts are used one after the other, and the
last one again and again; without any script a run succeeds at once.
-/

set_option autoImplicit false

namespace Sntp

/-- How one run of a command goes. Times count from its start. -/
inductive CommandScript where
  | refused (failure : Failure)
  /-- It ends, at once if no delay is given. -/
  | ends (delay : Option Nat) (result : Except Failure Unit)
  | process (events : List (Int × ProcessEvent))

/-- What becomes of a command that was started. -/
inductive Launch where
  | refused (failure : Failure)
  | endedAtOnce (result : Except Failure Unit)
  | ends (after : Int) (result : Except Failure Unit)
  | neverEnds

namespace CommandScript

/-- A run that succeeds at once. -/
def success : CommandScript := .ends none (.ok ())

/-- What becomes of a command that goes by a script. -/
def launch (command : String) : CommandScript → Launch
  | refused failure => .refused failure
  | ends none result => .endedAtOnce result
  | ends (some delay) result => .ends delay result
  | process events =>
    match watch command (Agenda.ofList events) with
    | some (after, result) => .ends after (result.map fun _ => ())
    | none => .neverEnds

end CommandScript

/-- The next of a list of scripts and the scripts from there on; the last one stays. -/
def nextScript {α : Type} (otherwise : α) : List α → α × List α
  | [] => (otherwise, [])
  | [last] => (last, [last])
  | script :: rest => (script, rest)

/-- The script that is used after a number of others of a list. -/
def scriptAfter {α : Type} (otherwise : α) (scripts : List α) (used : Nat) : α :=
  scripts.getD used (scripts.getLastD otherwise)

/-- The next script is the one that is used after no others. -/
theorem nextScript_fst {α : Type} (otherwise : α) (scripts : List α) :
    (nextScript otherwise scripts).1 = scriptAfter otherwise scripts 0 := by
  match scripts with
  | [] => rfl
  | [_] => rfl
  | _ :: _ :: _ => rfl

/-- One script less is to be used before a script once the next one has been taken. -/
theorem scriptAfter_nextScript {α : Type} (otherwise : α) (scripts : List α) (used : Nat) :
    scriptAfter otherwise (nextScript otherwise scripts).2 used = scriptAfter otherwise scripts (used + 1) := by
  match scripts with
  | [] => rfl
  | [last] => cases used <;> rfl
  | _ :: _ :: _ => simp [nextScript, scriptAfter]

end Sntp
