import Sntp.Proofs.Rehearsal.Course
import Sntp.Proofs.Sync.Foreseen

/-!
# Rehearsals come to what is foreseen

Part by part, a rehearsal in which every message can be logged comes to what is computed for that part
(`perform_writeLines` to `perform_proceed`). So a whole run comes to what is foreseen
(`perform_synchronize_eq`), given what becomes of a time to set: in test mode, without privilege, and
with a clock setter that ends it is one decision for each time (`resolves_testOnly`,
`resolves_unprivileged`, `resolves_setter`). The clock is set to the time that the replies leave, if
they leave one (`settings_of_leaves`, `settings_of_not_leaves`).
-/

set_option autoImplicit false

namespace Sntp

/-- What becomes of a time to set in a world: nothing if a question is never answered. -/
def World.becomes {σ : Type} (world : World σ) (state : σ) (testOnly : Bool) (method : String) (timeMs : Int) :
    Option Decision :=
  if testOnly then some (.testOnly timeMs)
  else
    match world .isPrivileged state with
    | (none, _) => none
    | (some false, _) => some (.deny timeMs)
    | (some true, after) => (world (.setClock timeMs) after).1.map (Decision.afterSetting method timeMs)

namespace Rehearsal

variable {r : Rehearsal}

/-- Whether one and the same becomes of a time to set whenever a run comes to it. -/
def Resolves (r : Rehearsal) (testOnly : Bool) (method : String) (onTime : Int → Decision) : Prop :=
  ∀ later, r.Keeps later → ∀ timeMs, world.becomes later testOnly method timeMs = some (onTime timeMs)

/-- A time to set is only told in a test run. -/
theorem resolves_testOnly (r : Rehearsal) (method : String) : r.Resolves true method .testOnly :=
  fun _ _ _ => rfl

/-- A time to set is denied without the privilege. -/
theorem resolves_unprivileged (method : String) (h : r.privileged = false) : r.Resolves false method .deny := by
  intro later hkeeps timeMs
  have hprivileged : world .isPrivileged later = (some false, later.record .askPrivilege) := by
    simp only [world, hkeeps.privileged_eq, h]
  unfold World.becomes
  rw [hprivileged]
  rfl

/-- With privilege a clock setter that ends decides about a time to set. -/
theorem resolves_setter (method : String) {name : String} {behaviour : Number → Option (Except Failure Unit)}
    {ending : Number → Except Failure Unit} (hprivileged : r.privileged = true) (hsetter : r.setter = .actor name behaviour)
    (hbehaviour : ∀ ms, behaviour ms = some (ending ms)) :
    r.Resolves false method fun timeMs => Decision.afterSetting method timeMs (ending timeMs) := by
  intro later hkeeps timeMs
  have hasked : world .isPrivileged later = (some true, later.record .askPrivilege) := by
    simp only [world, hkeeps.privileged_eq, hprivileged]
  have hset : (world (.setClock timeMs) (later.record .askPrivilege)).1 = some (ending timeMs) := by
    have hlater : (later.record .askPrivilege).setter = .actor name behaviour := hkeeps.setter_eq.trans hsetter
    simp only [world, setClock, hlater, hbehaviour]
  unfold World.becomes
  rw [hasked]
  simp only [Bool.false_eq_true, if_false, hset]
  rfl

/-- A time to set is applied by an actor that always succeeds. -/
theorem resolves_actor (method : String) {name : String} {behaviour : Number → Option (Except Failure Unit)}
    (hprivileged : r.privileged = true) (hsetter : r.setter = .actor name behaviour)
    (hbehaviour : ∀ ms, behaviour ms = some (.ok ())) : r.Resolves false method .apply :=
  resolves_setter method hprivileged hsetter hbehaviour

/-- Writing lines comes to the failure of the first one that cannot be written. -/
theorem perform_writeLines (lines : List (Except Failure String)) (hfree : r.scene.LogsFreely) :
    (Task.perform world (writeLines lines) r).1 = some (linesWritten lines) := by
  induction lines generalizing r with
  | nil => rfl
  | cons line rest ih =>
    cases line with
    | error failure => rfl
    | ok text =>
      have hlog : (Task.perform world (Task.log .debug text) r).1 = some (.ok ()) :=
        congrArg Prod.fst (attends_world.perform_debug text r)
      have hafter := (keeps_perform (Task.log .debug text) r).scene_grows.logsFreely hfree
      unfold writeLines
      rw [Task.perform_bind, Task.perform_ofExcept]
      simp only []
      rw [Task.perform_bind_fst world r _ _ hlog]
      exact ih hafter

/-- A message is logged if the scene logs freely. -/
theorem perform_log (level : Level) (message : String) (hfree : r.scene.LogsFreely) :
    (Task.perform world (Task.log level message) r).1 = some (.ok ()) := by
  rw [Task.perform_log]
  exact congrArg some (r.scene.log_eq_ok_of_logsFreely level message hfree)

/-- A measurement is reported if its lines can be written. -/
theorem perform_report (config : Config) (m : Measurement) (estimate : Estimate) (hfree : r.scene.LogsFreely) :
    (Task.perform world (config.report m estimate) r).1 = some (linesWritten (m.lines config estimate)) := by
  have hlines := perform_writeLines (m.lines config estimate) hfree
  have hafter := (keeps_perform (writeLines (m.lines config estimate)) r).scene_grows.logsFreely hfree
  unfold Config.report
  rw [Task.perform_bind_fst world r _ _ hlines]
  cases linesWritten (m.lines config estimate) with
  | error failure => rfl
  | ok done =>
    simp only []
    by_cases hsystem : config.useSystemLog
    · rw [if_pos hsystem, perform_log _ _ hafter]
    · rw [if_neg hsystem]
      rfl

/-- A decision is announced if the time of it can be told. -/
theorem perform_announce (method : String) (decision : Decision) (hfree : r.scene.LogsFreely) :
    (Task.perform world (decision.announce method) r).1 = some (decision.announced method) := by
  unfold Decision.announce Decision.announced
  rw [Task.perform_bind, Task.perform_ofExcept]
  cases decision.announcement method with
  | error failure => rfl
  | ok line =>
    simp only []
    rw [Task.perform_bind_fst world r _ _ (perform_log line.1 line.2 hfree)]
    rfl

/-- A run that fails ends as its failure says. -/
theorem perform_ofFailure (m : Option Measurement) (estimate : Option Estimate) (failure : Failure)
    (hfree : r.scene.LogsFreely) :
    (Task.perform world (Outcome.ofFailure m estimate failure) r).1 = some (Outcome.failed m estimate failure) := by
  unfold Outcome.ofFailure Outcome.failed
  cases failure.diagnosis? with
  | none => rfl
  | some diagnosis =>
    simp only []
    rw [Task.perform_bind_fst world r _ _ (perform_log .error diagnosis.message hfree)]
    rfl

/-- A run that concluded ends as its conclusion says. -/
theorem perform_ofConclusion (m : Measurement) (estimate : Estimate) (conclusion : Except Failure Decision)
    (hfree : r.scene.LogsFreely) :
    (Task.perform world (Outcome.ofConclusion m estimate conclusion) r).1 =
      some (Outcome.concluded m estimate conclusion) := by
  cases conclusion with
  | error failure => exact perform_ofFailure (some m) (some estimate) failure hfree
  | ok decision => rfl

/-- The decision is the one that can be foreseen. -/
theorem perform_make_fst (sample : Sample) (estimate : Estimate) {testOnly : Bool} {method : String}
    {onTime : Int → Decision} (hresolves : r.Resolves testOnly method onTime) :
    (Task.perform world (Decision.make sample estimate testOnly method) r).1 =
      some (Decision.made sample estimate onTime) := by
  rw [perform_make]
  unfold Decision.made
  cases assess sample estimate with
  | error failure => rfl
  | ok verdict =>
    cases verdict with
    | inl decision => rfl
    | inr timeMs =>
      have hbecomes := hresolves r (.refl r) timeMs
      unfold World.becomes at hbecomes
      cases testOnly with
      | true => simpa [Except.map] using hbecomes
      | false =>
        have hasked : world .isPrivileged r = (some r.privileged, r.record .askPrivilege) := rfl
        simp only [Bool.false_eq_true, if_false, hasked] at hbecomes ⊢
        cases hprivileged : r.privileged with
        | false => simpa [hprivileged, Except.map] using hbecomes
        | true =>
          simp only [hprivileged] at hbecomes ⊢
          cases hset : world (.setClock timeMs) (r.record .askPrivilege) with
          | mk result? later =>
            rw [hset] at hbecomes
            cases result? with
            | none => cases hbecomes
            | some result => simpa [Except.map] using hbecomes

/-- The conclusion is the one that can be foreseen. -/
theorem perform_conclude (config : Config) (m : Measurement) (estimate : Estimate) {method : String}
    {onTime : Int → Decision} (hfree : r.scene.LogsFreely) (hresolves : r.Resolves config.testOnly method onTime) :
    (Task.perform world (config.conclude method m estimate) r).1 =
      some (config.concluded method m estimate onTime) := by
  have hreport := perform_report config m estimate hfree
  have hreported := keeps_perform (config.report m estimate) r
  unfold Config.conclude Config.concluded
  rw [Task.perform_bind_fst world r _ _ hreport]
  cases linesWritten (m.lines config estimate) with
  | error failure => rfl
  | ok done =>
    simp only []
    have hresolved : Resolves (Task.perform world (config.report m estimate) r).2 config.testOnly method onTime :=
      fun later hlater => hresolves later (hreported.trans _ _ _ hlater)
    rw [Task.perform_bind_fst world _ _ _ (perform_make_fst m.sample estimate hresolved)]
    have hmade := hreported.trans _ _ _ (keeps_perform (Decision.make m.sample estimate config.testOnly method) _)
    cases Decision.made m.sample estimate onTime with
    | error failure => rfl
    | ok decision => exact perform_announce method decision (hmade.scene_grows.logsFreely hfree)

/-- The outcome after the acquisition is the one that can be foreseen. -/
theorem perform_proceed (config : Config) (result : Except Failure Measurement) {method : String}
    {onTime : Int → Decision} (hfree : r.scene.LogsFreely) (hresolves : r.Resolves config.testOnly method onTime) :
    (Task.perform world (config.proceed method result) r).1 =
      some (match result with
        | .error failure => Outcome.failed none none failure
        | .ok m =>
          match m.sample.estimate with
          | .error fault => Outcome.failed (some m) none (.fault fault)
          | .ok estimate => Outcome.concluded m estimate (config.concluded method m estimate onTime)) := by
  unfold Config.proceed
  cases result with
  | error failure => exact perform_ofFailure none none failure hfree
  | ok m =>
    simp only []
    cases m.sample.estimate with
    | error fault => exact perform_ofFailure (some m) none (.fault fault) hfree
    | ok estimate =>
      have hconclude := perform_conclude config m estimate hfree hresolves
      have hafter := (keeps_perform (config.conclude method m estimate) r).scene_grows.logsFreely hfree
      have hattempt : (Task.perform world (Task.attempt (config.conclude method m estimate)) r).1 =
          some (.ok (config.concluded method m estimate onTime)) := by
        rw [Task.perform_attempt, hconclude]
        rfl
      simp only []
      rw [Task.perform_bind_fst world r _ _ hattempt, Task.perform_attempt]
      exact perform_ofConclusion m estimate _ hafter

/-- The acquisition of a run comes to what is got from the replies, and leaves a rehearsal that goes
on as before. -/
theorem perform_opened (config : Config) (r : Rehearsal) :
    ∃ after, Task.perform world config.acquire (config.opened world r) =
        (some (config.acquired none (r.nextReplies config.retries.toNat)), after) ∧ r.Keeps after := by
  have hopened : r.Keeps (config.opened world r) :=
    .trans _ _ _ (keeps_world (.log .debug _) r) (keeps_world (.log .debug _) _)
  refine ⟨(Task.perform world config.acquire (config.opened world r)).2, ?_, ?_⟩
  · exact Prod.ext (perform_acquire config (config.opened world r)) rfl
  · exact hopened.trans _ _ _ (keeps_perform config.acquire (config.opened world r))

/-- A run in which every message can be logged comes to what is foreseen. -/
theorem perform_synchronize_eq (config : Config) {method : String} {onTime : Int → Decision}
    (hfree : r.scene.LogsFreely) (hresolves : r.Resolves config.testOnly method onTime) :
    (Task.perform world (config.synchronize method) r).1 =
      some (config.foreseen method (r.nextReplies config.retries.toNat) onTime) := by
  obtain ⟨after, hacquire, hkeeps⟩ := perform_opened config r
  rw [perform_synchronize attends_world, hacquire]
  exact perform_proceed config _ (hkeeps.scene_grows.logsFreely hfree)
    fun later hlater => hresolves later (hkeeps.trans _ _ _ hlater)

/-- A run sets the clock to the time that the replies leave, outside of test mode and with privilege,
and to no other. -/
theorem settings_synchronize_eq (config : Config) (method : String) (hfree : r.scene.LogsFreely) :
    settings (Task.actions world (config.synchronize method) r) =
      match config.acquired none (r.nextReplies config.retries.toNat) with
      | .error _ => []
      | .ok m =>
        match m.sample.estimate with
        | .error _ => []
        | .ok estimate =>
          match linesWritten (m.lines config estimate) with
          | .error _ => []
          | .ok () =>
            match assess m.sample estimate with
            | .ok (.inr timeMs) => if config.testOnly = false ∧ r.privileged = true then [timeMs] else []
            | _ => [] := by
  obtain ⟨after, hacquire, hkeeps⟩ := perform_opened config r
  rw [settings_synchronize attends_world, hacquire]
  simp only []
  rw [settings_proceed]
  -- Stage by stage, one that fails leaves nothing to set.
  cases config.acquired none (r.nextReplies config.retries.toNat) with
  | error failure => rfl
  | ok m =>
    simp only []
    cases m.sample.estimate with
    | error fault => rfl
    | ok estimate =>
      have hreport := perform_report config m estimate (hkeeps.scene_grows.logsFreely hfree)
      have hreported := hkeeps.trans _ _ _ (keeps_perform (config.report m estimate) after)
      simp only []
      rw [settings_conclude]
      cases hrun : Task.perform world (config.report m estimate) after with
      | mk result later =>
        rw [hrun] at hreport hreported
        obtain rfl : result = some (linesWritten (m.lines config estimate)) := hreport
        cases linesWritten (m.lines config estimate) with
        | error failure => rfl
        | ok done =>
          have hprivileged : (world .isPrivileged later).1 = some true ↔ r.privileged = true := by
            show some later.privileged = some true ↔ _
            rw [hreported.privileged_eq, Option.some.injEq]
          simp only []
          rw [settings_make]
          cases assess m.sample estimate with
          | error failure => rfl
          | ok verdict =>
            cases verdict with
            | inl decision => rfl
            | inr timeMs => simp only [hprivileged]

/-- A time that the replies leave is set once, unless the mode or the privilege forbids it. -/
theorem settings_of_leaves {config : Config} {m : Measurement} {estimate : Estimate} {timeMs : Int} (method : String)
    (hfree : r.scene.LogsFreely) (h : config.Leaves (r.nextReplies config.retries.toNat) m estimate timeMs) :
    settings (Task.actions world (config.synchronize method) r) =
      if config.testOnly = false ∧ r.privileged = true then [timeMs] else [] := by
  rw [settings_synchronize_eq config method hfree]
  simp only [h.acquired, h.estimated, h.written, h.assessed]

/-- Replies that leave no time do not set the clock. -/
theorem settings_of_not_leaves {config : Config} (method : String) (hfree : r.scene.LogsFreely)
    (h : ∀ m estimate timeMs, ¬ config.Leaves (r.nextReplies config.retries.toNat) m estimate timeMs) :
    settings (Task.actions world (config.synchronize method) r) = [] := by
  rw [settings_synchronize_eq config method hfree]
  cases hgot : config.acquired none (r.nextReplies config.retries.toNat) with
  | error failure => rfl
  | ok m =>
    simp only []
    cases hestimate : m.sample.estimate with
    | error fault => rfl
    | ok estimate =>
      simp only []
      cases hwritten : linesWritten (m.lines config estimate) with
      | error failure => rfl
      | ok done =>
        simp only []
        cases hassess : assess m.sample estimate with
        | error failure => rfl
        | ok verdict =>
          cases verdict with
          | inl decision => rfl
          | inr timeMs => exact absurd ⟨hgot, hestimate, hwritten, hassess⟩ (h m estimate timeMs)

end Rehearsal

end Sntp
