import Std.Async.DNS
import Std.Async.Timer
import Std.Async.UDP
import Sntp.Log.Logger
import Sntp.Network.Inquiry
import Sntp.Options.Arguments
import Sntp.Sync.Synchronize

/-!
# The command line

Carries out the program with the real network, clock and console. The commands that set the clock
and write to the system log are not started from here, so that neither of the two is available: a
change of the clock is denied, and a write to the system log counts as failed.
-/

set_option autoImplicit false

namespace Sntp.CommandLine

open Std.Async Std.Net

/-- The milliseconds since 1970-01-01 by the local clock. -/
def wallClock : IO Int := do
  return (← Std.Time.Timestamp.now).toMillisecondsSinceUnixEpoch.val

/-- An error of the system as a failure. -/
def failureOf (error : IO.Error) : Failure := .system .ordinary (toString error)

/-- Runs an action of the system; its error is the failure. -/
def trying {α : Type} (action : IO α) : IO (Except Failure α) := do
  try return .ok (← action) catch error => return .error (failureOf error)

/-- The socket address of an address and a port. -/
def socketAddress (address : IPAddr) (port : UInt16) : SocketAddress :=
  match address with
  | .v4 address => .v4 { addr := address, port }
  | .v6 address => .v6 { addr := address, port }

/-- The address and the port of a socket address. -/
def sender : SocketAddress → IPAddr × UInt16
  | .v4 s => (.v4 s.addr, s.port)
  | .v6 s => (.v6 s.addr, s.port)

/-- The port of an endpoint, if there is such a port. -/
def portOf? (endpoint : Endpoint) : Option UInt16 :=
  match endpoint.port.safeInteger? with
  | some n => if 0 < n ∧ n < 65536 then some n.toNat.toUInt16 else none
  | none => none

/-- The largest datagram that is read whole. -/
def datagramSize : UInt64 := 65536

/-- What comes to a socket before a time by the monotonic clock has come. -/
def nextOccurrence (socket : UDP.Socket) (deadline : Nat) : IO Occurrence := do
  let left := deadline - (← IO.monoMsNow)
  if left = 0 then return .timeUp
  let arrival : Async Occurrence := do
    let sleeper ← Selector.sleep (Std.Time.Millisecond.Offset.ofNat left)
    Selectable.one #[
      .case (UDP.Socket.recvSelector socket datagramSize) fun (bytes, source) => do
        match source.map sender with
        | some (address, port) =>
          return .datagram bytes.toList (toString address) (Number.ofInt port.toNat)
        | none => return .datagram bytes.toList "" .nan,
      .case sleeper fun _ => return .timeUp]
  try arrival.block catch error => return .socketError (failureOf error)

/-- Makes a request and waits for its end. -/
def inquire (address : IPAddr) (port : UInt16) (timeoutMs : Int) : IO (Except Failure Exchange) := do
  let socket ← UDP.Socket.mk
  let deadline := (← IO.monoMsNow) + timeoutMs.toNat
  let inquiry : Inquiry :=
    { address := toString address, port := Number.ofInt port.toNat, timeoutMs, sentMs := ← wallClock }
  match ← trying (socket.send ⟨Packet.request.toArray⟩ (some (socketAddress address port))).block with
  | .error failure => return .error (inquiry.unsent failure)
  | .ok _ =>
    repeat
      let occurrence ← nextOccurrence socket deadline
      if let some result := inquiry.answer? (← wallClock) occurrence then return result
    return .error (.fault (.noResponse inquiry.address timeoutMs))

/-- Looks the server up and inquires at the first of its addresses. -/
def query (server : String) (timeoutMs : Int) : IO (Except Failure Exchange) := do
  let endpoint := Endpoint.ofText server (Number.ofInt Packet.port)
  let unresolved (cause : Failure) : Except Failure Exchange := .error (.faultFrom (.unresolved endpoint.host) cause)
  match ← trying (DNS.getAddrInfo endpoint.host "").block with
  | .error cause => return unresolved cause
  | .ok addresses =>
    match addresses.toList, portOf? endpoint with
    | [], _ => return unresolved (.system .ordinary "no address")
    | address :: _, some port => inquire address port timeoutMs
    | address :: _, none =>
      return .error (.faultFrom (.unsent (toString address))
        (.system .outOfRange ("no such port: " ++ endpoint.port.text)))

/-- The setter that stands for a clock that cannot be set. -/
def clockSetter : ClockSetter := .unsupported "this host"

/-- What a write to the system log fails with. -/
def noSystemLog : Failure := .system .ordinary "the system log is not available"

/-- Writes a line to the standard error, with the time of the wall clock. -/
def writeLine (logger : Logger) (level : Level) (message : String) : IO Unit := do
  (← IO.getStderr).putStrLn (logger.line (← wallClock) level message)

/-- Answers the actions of a run on this host, where nobody may set the clock. -/
def answer (logger : Logger) : (action : Action) → IO action.Answer
  | .log level message => do
    if logger.writes level then writeLine logger level message
    return .ok ()
  | .query server timeoutMs => query server timeoutMs
  | .sleep ms => IO.sleep ms.toUInt32
  | .isPrivileged => return false
  | .setClock _ => return .error (clockSetter.failed ClockSetter.unsupportedReason)

/-- Carries a program out on this host. -/
def perform {α : Type} (logger : Logger) : Program α → IO α
  | .done value => return value
  | .perform action next => do perform logger (next (← answer logger action))

/-- The settings that the environment holds. -/
def environment : IO Environment := do
  return {
    server := ← IO.getEnv "TIMESYNC_SERVER"
    timeout := ← IO.getEnv "TIMESYNC_TIMEOUT"
    retries := ← IO.getEnv "TIMESYNC_RETRIES"
    systemLog := ← IO.getEnv "TIMESYNC_SYSLOG" }

/-- Runs the program, and gives its exit code. -/
def execute (arguments : List String) : IO ExitCode := do
  let stderr ← IO.getStderr
  let color ← stderr.isTty
  match Request.ofArguments (← environment) arguments with
  | .error fault =>
    writeLine { verbose := false, color } .error (Failure.fault fault).message
    stderr.putStr usage
    return fault.exitCode
  | .ok .help =>
    stderr.putStr usage
    return .success
  | .ok (.run config) =>
    let logger : Logger := { verbose := config.verbose, color }
    let outcome ← perform logger (config.synchronize clockSetter.method).run
    if config.useSystemLog then writeLine logger .warning (systemLogFailed noSystemLog)
    match outcome with
    | .ok outcome => return outcome.exitCode
    | .error failure =>
      writeLine logger .error ("Unexpected error: " ++ failure.summary)
      return .invalidResponse

end Sntp.CommandLine

/-- Runs the program with the arguments of the command line. -/
def main (arguments : List String) : IO UInt32 := do
  return (← Sntp.CommandLine.execute arguments).toNat.toUInt32
