import Sntp.Simulation.Agenda
import Sntp.Simulation.Effect

/-!
# Exchanges with a simulated server

The script of an exchange says what the name service answers, what comes to the socket and when, and
what becomes of the request. The end of the time allowed is entered after what comes to the socket
and before the report on sending, which settles what happens first at one and the same time.
-/

set_option autoImplicit false

namespace Sntp

/-- What becomes of a request. -/
inductive SendScript where
  | refused (failure : Failure)
  /-- The system reports some time later. -/
  | reported (after : Int) (failure : Option Failure)
  deriving DecidableEq, Repr

/-- What happens in an exchange. Times count from its start. -/
structure ExchangeScript where
  lookup : Except Failure ResolvedAddress
  events : List (Int × Occurrence)
  send : SendScript

/-- How a simulated query went. -/
structure QueryRun where
  trace : Trace
  endTime : Int
  result : Except Failure Exchange

namespace Inquiry

/-- The first occurrence on an agenda that ends an inquiry, with its time, and how it ends it. -/
def firstAnswer? (inquiry : Inquiry) (clock : LocalClock) : Agenda Occurrence → Option (Int × Except Failure Exchange)
  | [] => none
  | (time, occurrence) :: rest =>
    match inquiry.answer? (clock.read time) occurrence with
    | some result => some (time, result)
    | none => inquiry.firstAnswer? clock rest

end Inquiry

namespace ExchangeScript

/-- All that may occur in an exchange that starts at a time. What is due before the start occurs at
the start. -/
def agenda (script : ExchangeScript) (start timeoutMs : Int) : Agenda Occurrence :=
  let later (entry : Int × Occurrence) : Int × Occurrence := (start + entry.1, entry.2)
  let report := match script.send with
    | .refused _ => []
    | .reported after failure => [(start + after, .sent failure)]
  (Agenda.ofList (script.events.map later ++ (start + timeoutMs, .timeUp) :: report)).map
    fun (due, occurrence) => (max start due, occurrence)

/-- When and how an inquiry ends that starts at a time. -/
def settle (script : ExchangeScript) (clock : LocalClock) (inquiry : Inquiry) (start : Int) :
    Int × Except Failure Exchange :=
  match script.send with
  | .refused failure => (start, .error (inquiry.unsent failure))
  | .reported _ _ =>
    (inquiry.firstAnswer? clock (script.agenda start inquiry.timeoutMs)).getD
      (start + inquiry.timeoutMs, .error (.fault (.noResponse inquiry.address inquiry.timeoutMs)))

/-- Plays a query of an endpoint from a time on. -/
def play (script : ExchangeScript) (clock : LocalClock) (start : Int) (endpoint : Endpoint) (timeoutMs : Int) :
    QueryRun :=
  let asked := (start, Effect.lookup endpoint.host)
  match script.lookup with
  | .error cause =>
    { trace := [asked], endTime := start, result := .error (.faultFrom (.unresolved endpoint.host) cause) }
  | .ok resolved =>
    let inquiry : Inquiry :=
      { address := resolved.address, port := endpoint.port, timeoutMs, sentMs := clock.read start }
    let (time, result) := script.settle clock inquiry start
    { trace := [
        asked,
        (start, .openSocket (resolved.family = 6)),
        (start, .send Packet.request endpoint.port resolved.address),
        (time, .closeSocket)]
      endTime := time
      result }

end ExchangeScript

end Sntp
