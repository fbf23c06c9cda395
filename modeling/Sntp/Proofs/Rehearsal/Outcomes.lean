import Sntp.Proofs.Rehearsal.Setting
import Sntp.Proofs.Sync.Outcomes

/-!
# How a rehearsal ends

A run in which every message can be logged logs the error or the warning that its outcome calls for, and no
other (`alarms_synchronize_eq`). If moreover its queries end as queries do and the clock setter ends, the run
has an outcome, and one of those that can arise (`foreseen_arises`, `exists_resolves`). So it never fails, its
exit code tells what it came to, and that is told once (`synchronize_classified`).
-/

set_option autoImplicit false

namespace Sntp

open Number

/-- Whether a fault is one that a query itself can end with. -/
def Fault.EndsQuery : Fault → Prop
  | .unresolved _ => True
  | .unsent _ => True
  | .noResponse _ _ => True
  | .shortPacket _ => True
  | _ => False

/-- Whether a reply is what a query can end with: an exchange, or a failure of its own. -/
def Reply.EndsQuery : Reply → Prop
  | .ok _ => True
  | .error failure => ∃ fault, failure.fault? = some fault ∧ fault.EndsQuery

/-- A failure that is a fault can be diagnosed. -/
theorem Failure.exists_diagnosis {failure : Failure} {fault : Fault} (h : failure.fault? = some fault) :
    ∃ cause, failure.diagnosis? = some ⟨fault, cause⟩ := by
  cases failure with
  | fault own => exact ⟨none, congrArg (Option.map (Diagnosis.mk · none)) h⟩
  | faultFrom own cause => exact ⟨some cause, congrArg (Option.map (Diagnosis.mk · (some cause))) h⟩
  | system kind message => cases h
  | datum value => cases h

/-- Without a time from the server the run ends with a network failure. -/
theorem Outcome.failed_arises {config : Config} {replies : List Reply} {failure : Failure}
    (hreplies : ∀ reply ∈ replies, reply.EndsQuery) (h : config.acquired none replies = .error failure) :
    ∃ outcome, Outcome.failed none none failure = .ok outcome ∧ outcome.Arises := by
  rcases Config.exhausted_or_mem_of_acquired h with ⟨cause, rfl⟩ | ⟨hmem, hlasting⟩
  · have hdiagnosis : (config.exhausted cause).diagnosis? = some ⟨.retriesExhausted config.server config.retries, cause⟩ := by
      cases cause <;> rfl
    unfold Outcome.failed
    rw [hdiagnosis]
    exact ⟨_, rfl, .exhausted config.server config.retries cause⟩
  · obtain ⟨fault, hfault, hends⟩ := hreplies _ hmem
    obtain ⟨cause, hdiagnosis⟩ := Failure.exists_diagnosis hfault
    unfold Failure.isRetryable at hlasting
    rw [hfault] at hlasting
    unfold Outcome.failed
    rw [hdiagnosis]
    -- A query without a response, or with a short one, calls for another attempt.
    cases fault with
    | unresolved host => exact ⟨_, rfl, .unresolved host cause⟩
    | unsent address => exact ⟨_, rfl, .unsent address cause⟩
    | noResponse address timeoutMs => exact absurd rfl hlasting
    | shortPacket length => exact absurd rfl hlasting
    | _ => exact hends.elim

/-- What has become of a time that can be told can be announced. -/
theorem Decision.Follows.announced_eq {timeMs : Int} {decision : Decision} (h : decision.Follows timeMs)
    (htold : ∃ text, isoTime timeMs = .ok text) (method : String) : decision.announced method = .ok decision := by
  obtain ⟨text, htext⟩ := htold
  unfold Decision.announced
  cases h with
  | testOnly =>
    simp only [Decision.announcement, htext]
    rfl
  | deny => rfl
  | apply =>
    simp only [Decision.announcement, htext]
    rfl
  | notSet own cause => rfl

/-- A decision of the gates can always be announced. -/
theorem Decision.Gated.announced_eq {decision : Decision} (h : decision.Gated) (method : String) :
    decision.announced method = .ok decision := by
  cases h <;> rfl

/-- For a time that is counted exactly the gates always make a decision or leave a time to set. -/
theorem assess_gated {sample : Sample} {remote : Int} (offset trip : Int) (hremote : sample.remoteMs = ofInt remote)
    (hsafe : IsSafe remote) :
    (∃ decision, assess sample { offsetMs := ofInt offset, rttMs := ofInt trip } = .ok (.inl decision) ∧ decision.Gated) ∨
      ∃ timeMs, assess sample { offsetMs := ofInt offset, rttMs := ofInt trip } = .ok (.inr timeMs) := by
  rw [assess_ofInt offset hremote hsafe, utcYear_ofInt hsafe]
  by_cases htrip : trip < 0 ∨ 10000 < trip
  · exact .inl ⟨_, if_pos htrip, .outOfRange (ofInt trip)⟩
  rw [if_neg htrip]
  by_cases hoffset : offset.natAbs < 500
  · exact .inl ⟨_, if_pos hoffset, .skip (ofInt offset)⟩
  rw [if_neg hoffset]
  by_cases hplausible : IsPlausibleYear (yearOfDay (remote / Moment.dayLength))
  · exact .inr ⟨_, if_pos hplausible⟩
  · exact .inl ⟨_, if_neg hplausible, .wrongYear _⟩

/-- From a reply whose local times name moments follows a decision, once an estimate can be formed. -/
theorem Config.concluded_arises (config : Config) (method : String) {reply : Reply} {m : Measurement} {estimate : Estimate}
    {onTime : Int → Decision} (hmeasured : reply.measurement = .ok m) (htimed : reply.IsTimed)
    (hestimated : m.sample.estimate = .ok estimate) (honTime : ∀ timeMs, (onTime timeMs).Follows timeMs) :
    ∃ decision, config.concluded method m estimate onTime = .ok decision ∧ decision.Arises := by
  obtain ⟨exchange, response, rfl, hresponse, hm⟩ := (reply.measurement_ok_iff m).mp hmeasured
  obtain ⟨hlow, hhigh⟩ := Response.transmitMs_bounds hresponse
  obtain ⟨hlocal, hremote⟩ := Rehearsal.isoTime_ok_of_isTimed htimed hresponse hm
  have hwritten := Rehearsal.linesWritten_of_isoTime_ok config estimate hlocal hremote
  obtain ⟨sent, received, remote, hexact, hestimate⟩ := (Sample.estimate_eq_ok_iff _ estimate).mp hestimated
  have hserver : m.sample.remoteMs = ofInt response.transmitMs := by rw [hm]
  have hgated := assess_gated (remote - (sent + received).tdiv 2) (received - sent) hserver (isSafe_of_told hlow hhigh)
  rw [← hestimate] at hgated
  unfold Config.concluded Decision.made
  rw [hwritten]
  rcases hgated with ⟨decision, hassessed, hgated⟩ | ⟨timeMs, hassessed⟩
  · rw [hassessed]
    exact ⟨decision, hgated.announced_eq method, .atGates hgated⟩
  · have htold := Reply.isoTime_ok hmeasured hestimated hassessed
    rw [hassessed]
    exact ⟨onTime timeMs, (honTime timeMs).announced_eq htold method, .ofTime (honTime timeMs)⟩

/-- What is foreseen is an outcome, and one of those that can arise. -/
theorem Config.foreseen_arises (config : Config) (method : String) {replies : List Reply} {onTime : Int → Decision}
    (hreplies : ∀ reply ∈ replies, reply.EndsQuery ∧ reply.IsTimed) (honTime : ∀ timeMs, (onTime timeMs).Follows timeMs) :
    ∃ outcome, config.foreseen method replies onTime = .ok outcome ∧ outcome.Arises := by
  unfold Config.foreseen
  cases hgot : config.acquired none replies with
  | error failure => exact Outcome.failed_arises (fun reply hmem => (hreplies reply hmem).1) hgot
  | ok m =>
    obtain ⟨reply, hmem, hmeasured⟩ := Config.exists_mem_of_acquired hgot
    simp only []
    cases hestimated : m.sample.estimate with
    | error fault =>
      obtain ⟨operation, left, right, -, rfl⟩ := (Sample.estimate_eq_error_iff _ _).mp hestimated
      exact ⟨_, rfl, .overflow operation left right m⟩
    | ok estimate =>
      obtain ⟨decision, hconcluded, harises⟩ :=
        config.concluded_arises method hmeasured (hreplies reply hmem).2 hestimated honTime
      simp only [hconcluded]
      exact ⟨_, rfl, .decided harises m estimate⟩

/-- A decision that cannot be announced raises no alarm. -/
theorem Decision.alarm?_of_announced_error {method : String} {decision : Decision} {failure : Failure}
    (h : decision.announced method = .error failure) : decision.alarm? = none := by
  cases decision with
  | reject diagnosis => cases h
  | deny timeMs => cases h
  | _ => rfl

/-- What is announced is the decision. -/
theorem Decision.eq_of_announced {method : String} {decision told : Decision}
    (h : decision.announced method = .ok told) : told = decision := by
  unfold Decision.announced at h
  cases hline : decision.announcement method with
  | error failure =>
    rw [hline] at h
    cases h
  | ok line =>
    rw [hline] at h
    exact (Except.ok.inj h).symm

/-- A run that fails raises the alarm about its failure. -/
theorem Outcome.alarm?_of_failed {m : Option Measurement} {estimate : Option Estimate} {failure : Failure}
    {outcome : Outcome} (h : Outcome.failed m estimate failure = .ok outcome) :
    (failure.diagnosis?.map fun diagnosis => (Level.error, diagnosis.message)).toList = outcome.alarm?.toList := by
  unfold Outcome.failed at h
  cases hdiagnosis : failure.diagnosis? with
  | none =>
    rw [hdiagnosis] at h
    cases h
  | some diagnosis =>
    rw [hdiagnosis] at h
    obtain rfl := Except.ok.inj h
    rfl

namespace Rehearsal

variable {r : Rehearsal} {method : String} {onTime : Int → Decision}

/-- Concluding raises the alarm of the decision, if it can be announced. -/
theorem alarms_conclude_eq (config : Config) (m : Measurement) (estimate : Estimate) (hfree : r.scene.LogsFreely)
    (hresolves : r.Resolves config.testOnly method onTime) :
    alarms (Task.actions world (config.conclude method m estimate) r) =
      match config.concluded method m estimate onTime with
      | .error _ => []
      | .ok decision => decision.alarm?.toList := by
  obtain ⟨after, hreport⟩ : ∃ after, Task.perform world (config.report m estimate) r =
      (some (linesWritten (m.lines config estimate)), after) := ⟨_, Prod.ext (perform_report config m estimate hfree) rfl⟩
  have hreported := keeps_perform (config.report m estimate) r
  rw [hreport] at hreported
  unfold Config.concluded
  rw [alarms_conclude, hreport]
  cases linesWritten (m.lines config estimate) with
  | error failure => rfl
  | ok done =>
    have hresolved : after.Resolves config.testOnly method onTime :=
      fun later hlater => hresolves later (hreported.trans _ _ _ hlater)
    obtain ⟨later, hmake⟩ : ∃ later, Task.perform world (Decision.make m.sample estimate config.testOnly method) after =
        (some (Decision.made m.sample estimate onTime), later) :=
    ⟨_, Prod.ext (perform_make_fst m.sample estimate hresolved) rfl⟩
    simp only [hmake]
    cases Decision.made m.sample estimate onTime with
    | error failure => rfl
    | ok decision =>
      simp only []
      -- Only the announcement of a time can fail, and that is neither an error nor a warning.
      cases hannounced : decision.announced method with
      | error failure =>
        rw [Decision.alarm?_of_announced_error hannounced]
        rfl
      | ok told => rw [Decision.eq_of_announced hannounced]

/-- What follows from the acquisition logs the error or the warning that its outcome calls for, and no other. -/
theorem alarms_proceed_eq (config : Config) (result : Except Failure Measurement) {outcome : Outcome}
    (hfree : r.scene.LogsFreely) (hresolves : r.Resolves config.testOnly method onTime)
    (h : (Task.perform world (config.proceed method result) r).1 = some (.ok outcome)) :
    alarms (Task.actions world (config.proceed method result) r) = outcome.alarm?.toList := by
  rw [perform_proceed config result hfree hresolves] at h
  unfold Config.proceed
  cases result with
  | error failure => exact (alarms_ofFailure world r none none failure).trans (Outcome.alarm?_of_failed (Option.some.inj h))
  | ok m =>
    simp only [] at h ⊢
    cases hestimated : m.sample.estimate with
    | error fault =>
      rw [hestimated] at h
      exact (alarms_ofFailure world r (some m) none (.fault fault)).trans (Outcome.alarm?_of_failed (Option.some.inj h))
    | ok estimate =>
      rw [hestimated] at h
      have hended : Outcome.concluded m estimate (config.concluded method m estimate onTime) = .ok outcome :=
        Option.some.inj h
      have halarms := alarms_conclude_eq config m estimate hfree hresolves
      obtain ⟨after, hconclude⟩ : ∃ after, Task.perform world (config.conclude method m estimate) r =
          (some (config.concluded method m estimate onTime), after) :=
        ⟨_, Prod.ext (perform_conclude config m estimate hfree hresolves) rfl⟩
      unfold alarms at halarms ⊢
      simp only []
      rw [Task.filterMap_actions_bind, Task.actions_attempt, halarms, Task.perform_attempt, hconclude]
      show _ ++ alarms (Task.actions world
        (Outcome.ofConclusion m estimate (config.concluded method m estimate onTime)) after) = _
      rw [alarms_ofConclusion]
      cases hconcluded : config.concluded method m estimate onTime with
      | error failure =>
        rw [hconcluded] at hended
        exact Outcome.alarm?_of_failed hended
      | ok decision =>
        rw [hconcluded] at hended
        obtain rfl := Except.ok.inj hended
        exact List.append_nil _

/-- A run raises the alarm of its outcome, and no other one. -/
theorem alarms_synchronize_eq (config : Config) {outcome : Outcome} (hfree : r.scene.LogsFreely)
    (hresolves : r.Resolves config.testOnly method onTime)
    (h : (Task.perform world (config.synchronize method) r).1 = some (.ok outcome)) :
    alarms (Task.actions world (config.synchronize method) r) = outcome.alarm?.toList := by
  obtain ⟨after, hacquire, hkeeps⟩ := perform_opened config r
  rw [perform_synchronize attends_world, hacquire] at h
  rw [alarms_synchronize world r attends_world, hacquire]
  exact alarms_proceed_eq config _ (hkeeps.scene_grows.logsFreely hfree)
    (fun later hlater => hresolves later (hkeeps.trans _ _ _ hlater)) h

/-- With a clock setter that always ends, one thing becomes of each time to set. -/
theorem exists_resolves (testOnly : Bool) (method : String) {name : String}
    {behaviour : Number → Option (Except Failure Unit)} (hsetter : r.setter = .actor name behaviour)
    (hbehaviour : ∀ ms, (behaviour ms).isSome) :
    ∃ onTime, r.Resolves testOnly method onTime ∧ ∀ timeMs, (onTime timeMs).Follows timeMs := by
  cases testOnly with
  | true => exact ⟨_, r.resolves_testOnly method, fun _ => .testOnly⟩
  | false =>
    cases hprivileged : r.privileged with
    | false => exact ⟨_, resolves_unprivileged method hprivileged, fun _ => .deny⟩
    | true =>
      have hends : ∀ ms, behaviour ms = some ((behaviour ms).get (hbehaviour ms)) := fun ms => (Option.some_get _).symm
      exact ⟨_, resolves_setter method hprivileged hsetter hends, fun timeMs => Decision.afterSetting_follows method timeMs _⟩

/-- A run whose queries end as queries do, with whatever bytes, and whose clock setter ends, in whatever way,
has an outcome if every message can be logged. The exit code tells what it came to; unless that is a success,
one error or warning is logged, which is the message of what went wrong, and otherwise none. -/
theorem synchronize_classified (config : Config) (method : String) (r : Rehearsal) (hfree : r.scene.LogsFreely)
    (hreplies : ∀ number, number < config.retries.toNat → (r.reply number).EndsQuery ∧ (r.reply number).IsTimed)
    (name : String) (behaviour : Number → Option (Except Failure Unit)) (hsetter : r.setter = .actor name behaviour)
    (hbehaviour : ∀ ms, (behaviour ms).isSome) :
    ∃ outcome, (Task.perform world (config.synchronize method) r).1 = some (.ok outcome) ∧ outcome.IsClassified ∧
      alarms (Task.actions world (config.synchronize method) r) = outcome.alarm?.toList := by
  obtain ⟨onTime, hresolves, hfollows⟩ := r.exists_resolves config.testOnly method hsetter hbehaviour
  obtain ⟨outcome, hforeseen, harises⟩ := config.foreseen_arises method (forall_mem_nextReplies hreplies) hfollows
  have hrun : (Task.perform world (config.synchronize method) r).1 = some (.ok outcome) :=
    (perform_synchronize_eq config hfree hresolves).trans (congrArg some hforeseen)
  exact ⟨outcome, hrun, harises.isClassified, alarms_synchronize_eq config hfree hresolves hrun⟩

/-- A rehearsal with a server that is silent at first and a clock that cannot be set. -/
def unsettable : Rehearsal := { silentAtFirst true with setter := .standIn "date" (some (.system .ordinary "refused")) }

set_option maxRecDepth 4000 in
/-- There the clock is not set, which is told by the exit code and by one error. -/
theorem synchronize_classified_unsettable :
    unsettable.scene.LogsFreely ∧
      ∃ outcome, (Task.perform world (threeAttempts.synchronize "date") unsettable).1 = some (.ok outcome) ∧
        outcome.exitCode.toNat = 10 ∧ outcome.IsClassified ∧
        outcome.alarm? = some (.error, "Failed to adjust system time with date: refused") := by
  have hfree : unsettable.scene.LogsFreely := .inl rfl
  have hreplies : ∀ number, number < threeAttempts.retries.toNat →
      (unsettable.reply number).EndsQuery ∧ (unsettable.reply number).IsTimed := by
    intro number _
    match number with
    | 0 => exact ⟨⟨_, rfl, trivial⟩, trivial⟩
    | 1 => exact ⟨trivial, _, _, rfl, rfl, by decide, by decide⟩
    | _ + 2 => exact ⟨trivial, _, _, rfl, rfl, by decide, by decide⟩
  obtain ⟨outcome, hrun, hclassified, halarms⟩ :=
    synchronize_classified threeAttempts "date" unsettable hfree hreplies "date" _ rfl fun _ => rfl
  have hlogged : alarms (Task.actions world (threeAttempts.synchronize "date") unsettable) =
      [(.error, "Failed to adjust system time with date: refused")] := by decide +kernel
  have hexit : (Task.perform world (threeAttempts.synchronize "date") unsettable).1.map
      (fun result => result.toOption.map (·.exitCode.toNat)) = some (some 10) := by decide +kernel
  refine ⟨hfree, outcome, hrun, ?_, hclassified, ?_⟩
  · rw [hrun] at hexit
    exact Option.some.inj (Option.some.inj hexit)
  · rw [hlogged] at halarms
    exact Option.toList_eq_singleton_iff.mp halarms.symm

end Rehearsal

end Sntp
