import Sntp.Failure

/-!
# Clock offset

An exchange gives three times: the local clock when the request left, the local clock when the
response came, and the server's clock when it sent the response. From them come the offset of the
local clock and the round trip. Sums and differences are formed only where the two operands and the
result are integers that doubles hold exactly; anything else is a fault that names the operation.
-/

set_option autoImplicit false

namespace Sntp

/-- The times of an exchange, in milliseconds. -/
structure Sample where
  localSendMs : Number
  localRecvMs : Number
  remoteMs : Number
  deriving DecidableEq, Repr, Inhabited

/-- How far the local clock is behind, and how long the exchange took. -/
structure Estimate where
  offsetMs : Number
  rttMs : Number
  deriving DecidableEq, Repr, Inhabited

/-- Applies an operation to two integers, all three numbers being safe integers. -/
def checked (operation : String) (apply : Int → Int → Int) (a b : Number) : Except Fault Int :=
  match a.safeInteger?, b.safeInteger? with
  | some m, some n =>
    if Number.IsSafe (apply m n) then .ok (apply m n) else .error (.overflow operation a b)
  | _, _ => .error (.overflow operation a b)

/-- The sum of two safe integers, if it is one. -/
def checkedAdd (a b : Number) : Except Fault Int := checked "+" (· + ·) a b

/-- The difference of two safe integers, if it is one. -/
def checkedSub (a b : Number) : Except Fault Int := checked "-" (· - ·) a b

/-- The offset is the server's time less the middle of the two local times, whose half is dropped
toward zero; it is positive when the local clock is behind. The sum is checked first, then the
offset, then the round trip. -/
def Sample.estimate (sample : Sample) : Except Fault Estimate :=
  match checkedAdd sample.localSendMs sample.localRecvMs with
  | .error fault => .error fault
  | .ok sum =>
    match checkedSub sample.remoteMs (Number.ofInt (sum.tdiv 2)) with
    | .error fault => .error fault
    | .ok offset =>
      match checkedSub sample.localRecvMs sample.localSendMs with
      | .error fault => .error fault
      | .ok rtt => .ok { offsetMs := offset, rttMs := rtt }

/-- The time to set: the server's time and half of the round trip for the way back. -/
def correctedTime (remoteMs rttMs : Number) : Except Fault Int := checkedAdd remoteMs rttMs.halfTruncated

end Sntp
