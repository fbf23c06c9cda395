import Sntp.Endpoint
import Sntp.Program

/-!
# Inquiries

An inquiry is one request to one address. It is over with the first decisive occurrence: a datagram
from the address and port that were asked, an error of the socket, a request that turns out not to
have left, or the end of the time allowed. Whatever else occurs before that, such as a datagram from
elsewhere, changes nothing.
-/

set_option autoImplicit false

namespace Sntp

/-- An address found for a host. -/
structure ResolvedAddress where
  address : String
  /-- The version of the internet protocol. -/
  family : Int
  deriving DecidableEq, Repr

/-- What may occur while an inquiry is open. -/
inductive Occurrence where
  | datagram (bytes : Bytes) (address : String) (port : Number)
  | socketError (failure : Failure)
  /-- The system reports on sending the request. -/
  | sent (failure : Option Failure)
  | timeUp
  deriving DecidableEq, Repr

/-- A request that was made. -/
structure Inquiry where
  address : String
  port : Number
  timeoutMs : Int
  /-- The local clock when the request left. -/
  sentMs : Number
  deriving DecidableEq, Repr

namespace Inquiry

/-- A request that did not leave, or whose socket broke. -/
def unsent (inquiry : Inquiry) (cause : Failure) : Failure := .faultFrom (.unsent inquiry.address) cause

/-- How an occurrence ends an inquiry, if it does; `now` is the local clock. -/
def answer? (inquiry : Inquiry) (now : Number) : Occurrence → Option (Except Failure Exchange)
  | .datagram bytes address port =>
    if address = inquiry.address ∧ port = inquiry.port then
      some (if bytes.length < Packet.size then .error (.fault (.shortPacket bytes.length))
        else .ok { localSendMs := inquiry.sentMs, localRecvMs := now, response := bytes, address })
    else none
  | .socketError failure => some (.error (inquiry.unsent failure))
  | .sent (some failure) => some (.error (inquiry.unsent failure))
  | .sent none => none
  | .timeUp => some (.error (.fault (.noResponse inquiry.address inquiry.timeoutMs)))

end Inquiry

end Sntp
