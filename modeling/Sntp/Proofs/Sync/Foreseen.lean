import Sntp.Proofs.Sync.Acquisition
import Sntp.Sync.Synchronize

/-!
# What a synchronization comes to

Where every message can be logged, a synchronization comes to what can be computed from the replies
and from what becomes of a time to set (`Config.foreseen`). Up to there it does not depend on the
mode, the privilege or the clock setter: unless the replies leave a time to set (`Config.Leaves`), it
does not matter what would become of one (`foreseen_of_not_leaves`).
-/

set_option autoImplicit false

namespace Sntp

/-- What writing lines comes to: the failure of the first one that cannot be written. -/
def linesWritten : List (Except Failure String) → Except Failure Unit
  | [] => .ok ()
  | .ok _ :: rest => linesWritten rest
  | .error failure :: _ => .error failure

/-- What announcing a decision comes to, if its message is logged. -/
def Decision.announced (method : String) (decision : Decision) : Except Failure Decision :=
  (decision.announcement method).map fun _ => decision

/-- What ending a run with a failure comes to. -/
def Outcome.failed (m : Option Measurement) (estimate : Option Estimate) (failure : Failure) : Except Failure Outcome :=
  match failure.diagnosis? with
  | none => .error failure
  | some diagnosis =>
    .ok { exitCode := diagnosis.fault.exitCode, decision := none, error := some diagnosis, measurement := m, estimate }

/-- What ending a run with a conclusion comes to. -/
def Outcome.concluded (m : Measurement) (estimate : Estimate) : Except Failure Decision → Except Failure Outcome
  | .error failure => Outcome.failed (some m) (some estimate) failure
  | .ok decision =>
    .ok {
      exitCode := decision.exitCode
      decision := some decision
      error := none
      measurement := some m
      estimate := some estimate }

/-- What the decision comes to, given what becomes of a time to set. -/
def Decision.made (sample : Sample) (estimate : Estimate) (onTime : Int → Decision) : Except Failure Decision :=
  (assess sample estimate).map (Sum.elim id onTime)

/-- What reporting a measurement, deciding and announcing the decision come to. -/
def Config.concluded (config : Config) (method : String) (m : Measurement) (estimate : Estimate)
    (onTime : Int → Decision) : Except Failure Decision :=
  match linesWritten (m.lines config estimate) with
  | .error failure => .error failure
  | .ok () =>
    match Decision.made m.sample estimate onTime with
    | .error failure => .error failure
    | .ok decision => decision.announced method

/-- What a synchronization comes to, given the replies and what becomes of a time to set. -/
def Config.foreseen (config : Config) (method : String) (replies : List Reply) (onTime : Int → Decision) :
    Except Failure Outcome :=
  match config.acquired none replies with
  | .error failure => Outcome.failed none none failure
  | .ok m =>
    match m.sample.estimate with
    | .error fault => Outcome.failed (some m) none (.fault fault)
    | .ok estimate => Outcome.concluded m estimate (config.concluded method m estimate onTime)

/-- Getting the time depends on the server, the timeout and the number of attempts alone. -/
theorem acquire_congr {config other : Config} (hserver : other.server = config.server)
    (htimeout : other.timeoutMs = config.timeoutMs) (hretries : other.retries = config.retries) :
    other.acquire = config.acquire := by
  have hattempts : ∀ last number left, other.attempts last number left = config.attempts last number left := by
    intro last number left
    induction left generalizing last number with
    | zero =>
      unfold Config.attempts Config.exhausted
      rw [hserver, hretries]
    | succ left ih =>
      rw [Config.attempts_succ, Config.attempts_succ]
      simp only [ih, Config.attemptLine, Config.measure, hserver, htimeout]
  unfold Config.acquire
  rw [hattempts, hretries]

/-- Getting the time does not depend on the mode. -/
theorem acquire_testOnly (config : Config) (mode : Bool) :
    { config with testOnly := mode }.acquire = config.acquire := acquire_congr rfl rfl rfl

/-- What is got from replies does not depend on the mode. -/
theorem acquired_testOnly (config : Config) (mode : Bool) (last : Option Failure) (replies : List Reply) :
    { config with testOnly := mode }.acquired last replies = config.acquired last replies := by
  induction replies generalizing last with
  | nil => rfl
  | cons reply rest ih =>
    simp only [Config.acquired]
    cases reply.measurement with
    | ok m => rfl
    | error failure =>
      simp only [ih]

/-- Nor does what a synchronization comes to, apart from what becomes of a time to set. -/
theorem foreseen_testOnly (config : Config) (mode : Bool) (method : String) (replies : List Reply)
    (onTime : Int → Decision) :
    { config with testOnly := mode }.foreseen method replies onTime = config.foreseen method replies onTime := by
  unfold Config.foreseen
  rw [acquired_testOnly]
  rfl

/-- The time to set that replies leave, with the measurement and the estimate that it comes from. -/
structure Config.Leaves (config : Config) (replies : List Reply) (m : Measurement) (estimate : Estimate)
    (timeMs : Int) : Prop where
  acquired : config.acquired none replies = .ok m
  estimated : m.sample.estimate = .ok estimate
  written : linesWritten (m.lines config estimate) = .ok ()
  assessed : assess m.sample estimate = .ok (.inr timeMs)

/-- The mode does not matter to the time that replies leave. -/
theorem leaves_testOnly (config : Config) (mode : Bool) (replies : List Reply) (m : Measurement) (estimate : Estimate)
    (timeMs : Int) :
    { config with testOnly := mode }.Leaves replies m estimate timeMs ↔ config.Leaves replies m estimate timeMs := by
  constructor
  · rintro ⟨hgot, hestimate, hwritten, hassess⟩
    exact ⟨(acquired_testOnly config mode none replies).symm.trans hgot, hestimate, hwritten, hassess⟩
  · rintro ⟨hgot, hestimate, hwritten, hassess⟩
    exact ⟨(acquired_testOnly config mode none replies).trans hgot, hestimate, hwritten, hassess⟩

/-- Replies leave at most one time to set. -/
theorem Config.Leaves.unique {config : Config} {replies : List Reply} {m m' : Measurement}
    {estimate estimate' : Estimate} {timeMs timeMs' : Int} (h : config.Leaves replies m estimate timeMs)
    (h' : config.Leaves replies m' estimate' timeMs') : timeMs = timeMs' := by
  obtain rfl := Except.ok.inj (h.acquired.symm.trans h'.acquired)
  obtain rfl := Except.ok.inj (h.estimated.symm.trans h'.estimated)
  exact Sum.inr.inj (Except.ok.inj (h.assessed.symm.trans h'.assessed))

/-- When replies leave no time to set, what a synchronization comes to does not depend on what would
become of one. -/
theorem foreseen_of_not_leaves {config : Config} {replies : List Reply}
    (h : ∀ m estimate timeMs, ¬ config.Leaves replies m estimate timeMs) (method : String)
    (onTime other : Int → Decision) :
    config.foreseen method replies onTime = config.foreseen method replies other := by
  unfold Config.foreseen
  cases hgot : config.acquired none replies with
  | error failure => rfl
  | ok m =>
    simp only []
    cases hestimate : m.sample.estimate with
    | error fault => rfl
    | ok estimate =>
      simp only [Config.concluded]
      cases hwritten : linesWritten (m.lines config estimate) with
      | error failure => rfl
      | ok done =>
        simp only [Decision.made]
        cases hassess : assess m.sample estimate with
        | error failure => rfl
        | ok verdict =>
          cases verdict with
          | inl decision => rfl
          | inr timeMs => exact absurd ⟨hgot, hestimate, hwritten, hassess⟩ (h m estimate timeMs)

/-- When replies leave a time to set, a synchronization comes to what becomes of it. -/
theorem Config.Leaves.foreseen_eq {config : Config} {replies : List Reply} {m : Measurement} {estimate : Estimate}
    {timeMs : Int} (h : config.Leaves replies m estimate timeMs) (method : String) (onTime : Int → Decision) :
    config.foreseen method replies onTime = Outcome.concluded m estimate ((onTime timeMs).announced method) := by
  simp only [Config.foreseen, h.acquired, h.estimated, Config.concluded, h.written, Decision.made, h.assessed,
    Except.map, Sum.elim_inr]

/-- If that can be announced, a synchronization ends with it. -/
theorem Config.Leaves.foreseen_eq_ok {config : Config} {replies : List Reply} {m : Measurement} {estimate : Estimate}
    {timeMs : Int} (h : config.Leaves replies m estimate timeMs) {method : String} {onTime : Int → Decision}
    {line : Level × String} (hline : (onTime timeMs).announcement method = .ok line) :
    config.foreseen method replies onTime =
      .ok ⟨(onTime timeMs).exitCode, some (onTime timeMs), none, some m, some estimate⟩ := by
  have hannounced : (onTime timeMs).announced method = .ok (onTime timeMs) := by
    unfold Decision.announced
    rw [hline]
    rfl
  rw [h.foreseen_eq, hannounced]
  rfl

end Sntp
