import Sntp.Proofs.Sync.Alarms

/-!
# The outcomes of a run

Few outcomes can arise of a run whose queries end as queries do (`Outcome.Arises`): no time is got, no
estimate can be formed of it, or a decision is made. Each of them has its exit code, its measurement and
estimate or lack of them, and an error or a warning unless it is a success (`Arises.isClassified`).
-/

set_option autoImplicit false

namespace Sntp

/-- The decisions that the gates can make. -/
inductive Decision.Gated : Decision → Prop
  | skip (offsetMs : Number) : Gated (.skip offsetMs)
  | outOfRange (rttMs : Number) : Gated (.reject ⟨.roundTripOutOfRange rttMs, none⟩)
  | wrongYear (year : Int) : Gated (.reject ⟨.implausibleYear year, none⟩)

/-- Only such decisions are the gates' own. -/
theorem Decision.gated_of_assess {sample : Sample} {estimate : Estimate} {decision : Decision}
    (h : assess sample estimate = .ok (.inl decision)) : decision.Gated := by
  unfold assess at h
  split at h
  · cases h
    exact .outOfRange _
  split at h
  · cases h
    exact .skip _
  split at h
  · cases h
  split at h
  · split at h <;> cases h
  · cases h
    exact .wrongYear _

/-- What can become of a time to set. -/
inductive Decision.Follows (timeMs : Int) : Decision → Prop
  | testOnly : Follows timeMs (.testOnly timeMs)
  | deny : Follows timeMs (.deny timeMs)
  | apply : Follows timeMs (.apply timeMs)
  | notSet (method : String) (cause : Option Failure) : Follows timeMs (.reject ⟨.clockNotSet method, cause⟩)

/-- What becomes of an attempt to set the clock follows from the time. -/
theorem Decision.afterSetting_follows (method : String) (timeMs : Int) (result : Except Failure Unit) :
    (Decision.afterSetting method timeMs result).Follows timeMs := by
  cases result with
  | ok done => exact .apply
  | error failure =>
    simp only [Decision.afterSetting]
    split
    · exact .notSet _ _
    · exact .notSet method (some failure)

/-- The decisions that can be made. -/
inductive Decision.Arises (decision : Decision) : Prop
  | atGates (h : decision.Gated)
  | ofTime {timeMs : Int} (h : decision.Follows timeMs)

/-- The outcomes that a run can have. -/
inductive Outcome.Arises : Outcome → Prop
  | unresolved (host : String) (cause : Option Failure) :
    Arises ⟨.networkFailure, none, some ⟨.unresolved host, cause⟩, none, none⟩
  | unsent (address : String) (cause : Option Failure) :
    Arises ⟨.networkFailure, none, some ⟨.unsent address, cause⟩, none, none⟩
  | exhausted (server : String) (attempts : Int) (cause : Option Failure) :
    Arises ⟨.networkFailure, none, some ⟨.retriesExhausted server attempts, cause⟩, none, none⟩
  | overflow (operation : String) (left right : Number) (m : Measurement) :
    Arises ⟨.invalidResponse, none, some ⟨.overflow operation left right, none⟩, some m, none⟩
  | decided {decision : Decision} (h : decision.Arises) (m : Measurement) (estimate : Estimate) :
    Arises ⟨decision.exitCode, some decision, none, some m, some estimate⟩

/-- How the parts of an outcome go together: a decision or an error, the exit codes with what they stand
for, and an error or a warning to be logged unless the run is a success. -/
structure Outcome.IsClassified (outcome : Outcome) : Prop where
  decision_iff : outcome.decision.isSome ↔ outcome.error = none
  exits_0_iff : outcome.exitCode.toNat = 0 ↔
    (∃ offsetMs, outcome.decision = some (.skip offsetMs)) ∨ (∃ timeMs, outcome.decision = some (.testOnly timeMs)) ∨
      ∃ timeMs, outcome.decision = some (.apply timeMs)
  exits_10_iff : outcome.exitCode.toNat = 10 ↔
    (∃ timeMs, outcome.decision = some (.deny timeMs)) ∨
      ∃ method cause, outcome.decision = some (.reject ⟨.clockNotSet method, cause⟩)
  exits_1_iff : outcome.exitCode.toNat = 1 ↔
    (∃ rttMs cause, outcome.decision = some (.reject ⟨.roundTripOutOfRange rttMs, cause⟩)) ∨
      (∃ year cause, outcome.decision = some (.reject ⟨.implausibleYear year, cause⟩)) ∨
      ∃ operation left right cause, outcome.error = some ⟨.overflow operation left right, cause⟩
  exits_2_iff : outcome.exitCode.toNat = 2 ↔
    (∃ host cause, outcome.error = some ⟨.unresolved host, cause⟩) ∨
      (∃ address cause, outcome.error = some ⟨.unsent address, cause⟩) ∨
      ∃ server attempts cause, outcome.error = some ⟨.retriesExhausted server attempts, cause⟩
  measurement_iff : outcome.measurement = none ↔ outcome.exitCode.toNat = 2
  estimate_iff : outcome.estimate = none ↔
    outcome.measurement = none ∨ ∃ operation left right cause, outcome.error = some ⟨.overflow operation left right, cause⟩
  alarm_iff : outcome.alarm? = none ↔ outcome.exitCode.toNat = 0

/-- Every outcome that arises is classified. -/
theorem Outcome.Arises.isClassified {outcome : Outcome} (h : outcome.Arises) : outcome.IsClassified := by
  cases h with
  | unresolved host cause => constructor <;> simp [ExitCode.toNat, alarm?]
  | unsent address cause => constructor <;> simp [ExitCode.toNat, alarm?]
  | exhausted server attempts cause => constructor <;> simp [ExitCode.toNat, alarm?]
  | overflow operation left right m => constructor <;> simp [ExitCode.toNat, alarm?]
  | decided h m estimate =>
    cases h with
    | atGates h =>
      cases h with
      | skip offsetMs => constructor <;> simp [ExitCode.toNat, Decision.exitCode, alarm?, Decision.alarm?]
      | outOfRange rttMs =>
        constructor <;> simp [ExitCode.toNat, Decision.exitCode, Fault.exitCode, alarm?, Decision.alarm?]
      | wrongYear year =>
        constructor <;> simp [ExitCode.toNat, Decision.exitCode, Fault.exitCode, alarm?, Decision.alarm?]
    | ofTime h =>
      cases h with
      | testOnly => constructor <;> simp [ExitCode.toNat, Decision.exitCode, alarm?, Decision.alarm?]
      | deny =>
        constructor <;> simp [ExitCode.toNat, Decision.exitCode, Diagnosis.denied, Fault.exitCode, alarm?, Decision.alarm?]
      | apply => constructor <;> simp [ExitCode.toNat, Decision.exitCode, alarm?, Decision.alarm?]
      | notSet method cause =>
        constructor <;> simp [ExitCode.toNat, Decision.exitCode, Fault.exitCode, alarm?, Decision.alarm?]

end Sntp
