/-!
# Agendas

An agenda holds what is still to happen on virtual time: earlier things first, and of things due at
the same time the one first that was entered first.
-/

set_option autoImplicit false

namespace Sntp

/-- Things to happen, each with the time at which it is due, in the order in which they will. -/
abbrev Agenda (α : Type) := List (Int × α)

namespace Agenda

variable {α : Type}

/-- Enters a thing after everything that is due no later. -/
def enter (due : Int) (thing : α) : Agenda α → Agenda α
  | [] => [(due, thing)]
  | (time, other) :: rest =>
    if time ≤ due then (time, other) :: enter due thing rest else (due, thing) :: (time, other) :: rest

/-- The agenda of things entered one after the other. -/
def ofList (entries : List (Int × α)) : Agenda α :=
  entries.foldl (fun agenda (due, thing) => agenda.enter due thing) []

end Agenda

end Sntp
