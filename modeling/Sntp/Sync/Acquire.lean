import Sntp.Clock.Offset
import Sntp.Options.Config
import Sntp.Program
import Sntp.Sync.Policy

/-!
# Getting the time

The server is asked up to as many times as the configuration allows. A fault after which another
attempt may succeed leads to one, after a pause; any other failure ends the run at once. When no
attempts are left, the last fault is the cause of the failure.
-/

set_option autoImplicit false

namespace Sntp

/-- An exchange, the response that it brought, and the times taken from both. -/
structure Measurement where
  exchange : Exchange
  response : Response
  sample : Sample
  deriving DecidableEq, Repr, Inhabited

/-- The pause between two attempts, in milliseconds. -/
def retryDelay : Nat := 200

/-- The measurement that an exchange gives, if its response can be used. -/
def Exchange.measurement (exchange : Exchange) : Except Failure Measurement :=
  match Response.ofBytes exchange.response with
  | .error fault => .error (.fault fault)
  | .ok response =>
    .ok {
      exchange, response
      sample := {
        localSendMs := exchange.localSendMs
        localRecvMs := exchange.localRecvMs
        remoteMs := response.transmitMs } }

/-- One attempt at getting the time. -/
def Config.measure (config : Config) : Task Measurement := do
  let exchange ← Task.query config.server config.timeoutMs
  Task.ofExcept exchange.measurement

/-- The failure of a run that has no attempts left. -/
def Config.exhausted (config : Config) (last : Option Failure) : Failure :=
  (Diagnosis.mk (.retriesExhausted config.server config.retries) last).failure

/-- Makes the attempts that are left; `number` counts them from 1 and `last` is the fault of the
attempt before. -/
def Config.attempts (config : Config) (last : Option Failure) (number : Nat) : (left : Nat) → Task Measurement
  | 0 => throw (config.exhausted last)
  | left + 1 => do
    let label := "Attempt (" ++ Number.integerText number ++ ")"
    Task.log .debug (label ++ " at NTP query on " ++ config.server ++ " ...")
    match ← Task.attempt config.measure with
    | .ok measurement => return measurement
    | .error failure =>
      if failure.isRetryable then
        Task.log .debug (label ++ " failed: " ++ failure.summary)
        if left ≠ 0 then Task.sleep retryDelay
        config.attempts (some failure) (number + 1) left
      else throw failure

/-- Gets the time from the server of a configuration. -/
def Config.acquire (config : Config) : Task Measurement := config.attempts none 1 config.retries.toNat

end Sntp
