import Sntp.Sync.Report

/-!
# Synchronizing

A run gets the time, reports the measurement, decides about the clock and announces the decision. A
fault on the way is logged and becomes part of the outcome, together with what was measured before
it; any other failure is passed on.
-/

set_option autoImplicit false

namespace Sntp

/-- How a run ended. -/
structure Outcome where
  exitCode : ExitCode
  decision : Option Decision
  /-- The fault that kept the run from deciding. -/
  error : Option Diagnosis
  measurement : Option Measurement
  estimate : Option Estimate
  deriving DecidableEq, Repr

/-- Ends a run with a failure: a fault is logged and ends it in order, anything else is passed on.
-/
def Outcome.ofFailure (measurement : Option Measurement) (estimate : Option Estimate) (failure : Failure) :
    Task Outcome :=
  match failure.diagnosis? with
  | none => throw failure
  | some diagnosis => do
    Task.log .error diagnosis.message
    return { exitCode := diagnosis.fault.exitCode, decision := none, error := some diagnosis, measurement, estimate }

/-- Writes what was measured and estimated to the log, and in one line to the system log if that is used. -/
def Config.report (config : Config) (m : Measurement) (estimate : Estimate) : Task Unit := do
  writeLines (m.lines config estimate)
  if config.useSystemLog then Task.log .info (m.systemLogLine config estimate)

/-- Writes the words about a decision to the log, and passes the decision on. -/
def Decision.announce (method : String) (decision : Decision) : Task Decision := do
  let (level, message) ← Task.ofExcept (decision.announcement method)
  Task.log level message
  return decision

/-- Reports a measurement, decides about the clock and announces the decision. -/
def Config.conclude (config : Config) (method : String) (m : Measurement) (estimate : Estimate) : Task Decision := do
  config.report m estimate
  let decision ← Decision.make m.sample estimate config.testOnly method
  decision.announce method

/-- The settings that matter for a run, as it tells them at its start. -/
def Config.settingsLine (config : Config) : String :=
  "Timeout: " ++ Number.integerText config.timeoutMs ++ " ms, Retries: " ++ Number.integerText config.retries
    ++ ", Syslog: " ++ (if config.useSystemLog then "on" else "off")

/-- Ends a run that came to a decision, or failed on the way to one. -/
def Outcome.ofConclusion (m : Measurement) (estimate : Estimate) : Except Failure Decision → Task Outcome
  | .error failure => Outcome.ofFailure (some m) (some estimate) failure
  | .ok decision =>
    return {
      exitCode := decision.exitCode
      decision := some decision
      error := none
      measurement := some m
      estimate := some estimate }

/-- Goes on with the time that was got, or ends the run if none was. -/
def Config.proceed (config : Config) (method : String) : Except Failure Measurement → Task Outcome
  | .error failure => Outcome.ofFailure none none failure
  | .ok m =>
    match m.sample.estimate with
    | .error fault => Outcome.ofFailure (some m) none (.fault fault)
    | .ok estimate => do Outcome.ofConclusion m estimate (← Task.attempt (config.conclude method m estimate))

/-- Synchronizes the clock. `method` is what the clock is said to be set with. -/
def Config.synchronize (config : Config) (method : String) : Task Outcome := do
  Task.log .debug ("Using server: " ++ config.server)
  Task.log .debug config.settingsLine
  config.proceed method (← Task.attempt config.acquire)

end Sntp
