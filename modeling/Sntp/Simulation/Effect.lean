import Sntp.Network.Inquiry

/-!
# Effects and clocks

What a simulated run does to its world is recorded as a list of effects, each with the virtual time
at which it happened. The local clock runs with virtual time, but may be off from the start and may
be moved.
-/

set_option autoImplicit false

namespace Sntp

/-- Something that a run did to its world. -/
inductive Effect where
  | lookup (host : String)
  | openSocket (isVersion6 : Bool)
  | send (bytes : Bytes) (port : Number) (address : String)
  | closeSocket
  | command (name : String) (arguments : List String)
  | line (text : String)
  /-- Text written to the console as it is. -/
  | text (text : String)
  | setClock (ms : Number)
  | askPrivilege
  | query (server : String) (timeoutMs : Int)
  | sleep (ms : Nat)
  deriving DecidableEq, Repr

/-- Effects with their times. -/
abbrev Trace := List (Int × Effect)

/-- A local clock: what it showed at time zero, and by how much it is moved when. -/
structure LocalClock where
  start : Int
  jumps : List (Int × Int)
  deriving DecidableEq, Repr, Inhabited

/-- What a local clock shows at a time. -/
def LocalClock.read (clock : LocalClock) (time : Int) : Int :=
  clock.start + time + (clock.jumps.filter (·.1 ≤ time)).foldl (fun sum jump => sum + jump.2) 0

end Sntp
