import Sntp.Calendar.Year
import Sntp.Clock.Offset
import Sntp.Clock.Setter
import Sntp.Program

/-!
# Whether to set the clock

The gates stand in this order: a round trip out of range is rejected; a small offset needs nothing;
an implausible year is rejected; then the time to set is computed; in test mode it is only told;
without privilege it is denied; and otherwise the clock is set to it. Everything up to the computed
time is `assess`, which performs no action. It fails when the remote time has no year, and when the
time to set is not counted exactly.
-/

set_option autoImplicit false

namespace Sntp

/-- A fault and the failure that brought it about, if one did. -/
structure Diagnosis where
  fault : Fault
  cause : Option Failure
  deriving DecidableEq, Repr, Inhabited

namespace Diagnosis

/-- The failure that a diagnosis is. -/
def failure (d : Diagnosis) : Failure :=
  match d.cause with
  | none => .fault d.fault
  | some cause => .faultFrom d.fault cause

/-- The text that a diagnosis is logged as. -/
def message (d : Diagnosis) : String := d.failure.message

end Diagnosis

/-- The diagnosis that a failure is, if it is a fault. -/
def Failure.diagnosis? : Failure → Option Diagnosis
  | fault f => some ⟨f, none⟩
  | faultFrom f cause => some ⟨f, some cause⟩
  | _ => none

/-- What is decided about the clock. -/
inductive Decision where
  /-- The clock is right enough. -/
  | skip (offsetMs : Number)
  | reject (diagnosis : Diagnosis)
  | testOnly (newTimeMs : Int)
  | deny (newTimeMs : Int)
  | apply (newTimeMs : Int)
  deriving DecidableEq, Repr

/-- The diagnosis of a change of the clock without privilege. -/
def Diagnosis.denied : Diagnosis := ⟨.privilegeDenied, none⟩

/-- The exit code of a run that ends with a decision. -/
def Decision.exitCode : Decision → ExitCode
  | .reject diagnosis => diagnosis.fault.exitCode
  | .deny _ => Diagnosis.denied.fault.exitCode
  | _ => .success

/-- The longest round trip that is trusted, in milliseconds. -/
def maxRoundTrip : Int := 10000

/-- The least offset that is worth a change, in milliseconds. -/
def minAdjustment : Int := 500

/-- The first year that a server may give. -/
def minYear : Int := 2025

/-- The last year that a server may give. -/
def maxYear : Int := 2200

/-- Whether a server may give a time of this year. -/
abbrev IsPlausibleYear (year : Int) : Prop := minYear ≤ year ∧ year ≤ maxYear

/-- The UTC year of a time; that of a time without one cannot be read. -/
def utcYear (ms : Number) : Except Failure Int :=
  match utcYear? ms with
  | some year => .ok year
  | none => .error .noYear

/-- The gates before any action: a decision, or else the time to set. -/
def assess (sample : Sample) (estimate : Estimate) : Except Failure (Decision ⊕ Int) :=
  if estimate.rttMs.lt 0 ∨ (maxRoundTrip : Number).lt estimate.rttMs then
    .ok (.inl (.reject ⟨.roundTripOutOfRange estimate.rttMs, none⟩))
  else if estimate.offsetMs.abs.lt minAdjustment then .ok (.inl (.skip estimate.offsetMs))
  else
    match utcYear sample.remoteMs with
    | .error failure => .error failure
    | .ok year =>
      if IsPlausibleYear year then
        match correctedTime sample.remoteMs estimate.rttMs with
        | .error fault => .error (.fault fault)
        | .ok timeMs => .ok (.inr timeMs)
      else .ok (.inl (.reject ⟨.implausibleYear year, none⟩))

/-- The decision after an attempt at setting the clock. A clock setter's own diagnosis is kept; any
other failure becomes the cause of one. -/
def Decision.afterSetting (method : String) (timeMs : Int) : Except Failure Unit → Decision
  | .ok _ => .apply timeMs
  | .error failure =>
    match failure.diagnosis? with
    | some ⟨.clockNotSet own, cause⟩ => .reject ⟨.clockNotSet own, cause⟩
    | _ => .reject ⟨.clockNotSet method, some failure⟩

/-- Decides about the clock, and sets it if it comes to that. `method` is what the clock is said to
be set with. -/
def Decision.make (sample : Sample) (estimate : Estimate) (testOnly : Bool) (method : String) : Task Decision := do
  match assess sample estimate with
  | .error failure => throw failure
  | .ok (.inl decision) => return decision
  | .ok (.inr timeMs) =>
    if testOnly then return .testOnly timeMs
    if ← Task.isPrivileged then
      return Decision.afterSetting method timeMs (← Task.trySetClock timeMs)
    else return .deny timeMs

end Sntp
