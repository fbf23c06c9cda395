import Sntp.Failure

/-!
# Writing to the system log

Writes run in the background. A close waits for the writes that were pending when it was called, and
returns the first failure that has come up since the last close returned. When it returns, no write
is pending any more: also one that was issued while the close was waiting is forgotten.

The state of this goes by events (`SystemLog.write`, `settle`, `close`, `wake?`), so that any
interleaving of them is a list.
-/

set_option autoImplicit false

namespace Sntp

/-- The writes and closes of a system log that are under way. Writes and closes are known by number.
-/
structure SystemLog where
  /-- The writes that a close called now would wait for. -/
  pending : List Nat
  failure : Option Failure
  /-- The closes that have not returned, each with the writes that it still waits for. -/
  closing : List (Nat × List Nat)
  deriving DecidableEq, Repr

namespace SystemLog

/-- A system log in which nothing is under way. -/
def idle : SystemLog where
  pending := []
  failure := none
  closing := []

/-- The failure to keep when another one comes up: the first one, unless it is the null value. -/
def firstFailure (kept : Option Failure) (new : Failure) : Failure :=
  match kept with
  | none => new
  | some (.datum .null) => new
  | some failure => failure

/-- A write is issued. -/
def write (log : SystemLog) (run : Nat) : SystemLog := { log with pending := log.pending ++ [run] }

/-- A write has ended, and nothing waits for it any longer. -/
def settle (log : SystemLog) (run : Nat) (result : Except Failure Unit) : SystemLog where
  pending := log.pending.erase run
  failure := match result with
    | .ok _ => log.failure
    | .error failure => some (firstFailure log.failure failure)
  closing := log.closing.map fun (id, awaited) => (id, awaited.erase run)

/-- A close is called. -/
def close (log : SystemLog) (id : Nat) : SystemLog :=
  { log with closing := log.closing ++ [(id, log.pending)] }

/-- A close returns, once the writes that it waits for have ended: what it returns, and the state
after it. -/
def wake? (log : SystemLog) (id : Nat) : Option (Option Failure × SystemLog) :=
  if log.closing.lookup id = some [] then
    some (log.failure, { pending := [], failure := none, closing := log.closing.filter (·.1 != id) })
  else none

end SystemLog

end Sntp
