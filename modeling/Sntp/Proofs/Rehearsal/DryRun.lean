import Sntp.Proofs.Clock.Gates
import Sntp.Proofs.Rehearsal.Foresight

/-!
# Test mode tells what would be done

A run in test mode, one without privilege and one that sets the clock, on the same replies, ask the
same questions (`questions_eq`). They also come to the same, up to what becomes of a time to set: the
first tells it, the second denies it and the third sets the clock to it (`dry_run`). That time can
always be told, because the gates keep it in range (`Config.Leaves.isoTime_ok`).
-/

set_option autoImplicit false

namespace Sntp

open Number

/-- The questions to the server and the pauses among actions. -/
def questions (actions : List Action) : List Action := actions.filter Action.isQuestion

/-- A time to set that replies leave can be told. -/
theorem Config.Leaves.isoTime_ok {config : Config} {r : Rehearsal} {count : Nat} {m : Measurement}
    {estimate : Estimate} {timeMs : Int} (h : config.Leaves (r.nextReplies count) m estimate timeMs) :
    ∃ text, isoTime timeMs = .ok text := by
  obtain ⟨number, -, -, hmeasured⟩ := (config.acquired_eq_ok_iff none r.reply count m).mp h.acquired
  exact Reply.isoTime_ok hmeasured h.estimated h.assessed

/-- A time that a test run comes to can be announced. -/
theorem Config.Leaves.announcement_testOnly {config : Config} {r : Rehearsal} {count : Nat} {m : Measurement}
    {estimate : Estimate} {timeMs : Int} (h : config.Leaves (r.nextReplies count) m estimate timeMs) (method : String) :
    ∃ line, (Decision.testOnly timeMs).announcement method = .ok line := by
  obtain ⟨text, htext⟩ := h.isoTime_ok
  exact ⟨_, by rw [Decision.announcement, htext]; rfl⟩

/-- A time that the clock was set to can be announced. -/
theorem Config.Leaves.announcement_apply {config : Config} {r : Rehearsal} {count : Nat} {m : Measurement}
    {estimate : Estimate} {timeMs : Int} (h : config.Leaves (r.nextReplies count) m estimate timeMs) (method : String) :
    ∃ line, (Decision.apply timeMs).announcement method = .ok line := by
  obtain ⟨text, htext⟩ := h.isoTime_ok
  exact ⟨_, by rw [Decision.announcement, htext]; rfl⟩

namespace Rehearsal

/-- Only the acquisition asks questions. -/
theorem questions_synchronize (config : Config) (method : String) (r : Rehearsal) :
    questions (Task.actions world (config.synchronize method) r) =
      questions (Task.actions world config.acquire (config.opened world r)) := by
  obtain ⟨after, hacquire, -⟩ := perform_opened config r
  have hproceed := only_proceed_unquestioning config method (config.acquired none (r.nextReplies config.retries.toNat))
  have hnone : questions (Task.actions world (config.proceed method
      (config.acquired none (r.nextReplies config.retries.toNat))) after) = [] := by
    unfold questions
    rw [List.filter_eq_nil_iff]
    intro action hmem
    simp [Program.Only.of_mem_actions hproceed world after hmem]
  rw [actions_synchronize attends_world, hacquire]
  unfold questions at hnone ⊢
  simp [List.filter_append, Action.isQuestion, hnone]

/-- Runs on the same replies ask the same questions. -/
theorem questions_eq (config : Config) (mode other : Bool) (method : String) {r twin : Rehearsal}
    (hreplies : r.replies = twin.replies) :
    questions (Task.actions world ({ config with testOnly := mode }.synchronize method) r) =
      questions (Task.actions world ({ config with testOnly := other }.synchronize method) twin) := by
  have halike : ∀ action (state twin : Rehearsal), action.IsAcquisition → state.replies = twin.replies →
      (world action state).1 = (world action twin).1 ∧
        (world action state).2.replies = (world action twin).2.replies := by
    intro action state twin hkind hsame
    cases action with
    | log level message =>
      obtain rfl : level = .debug := hkind
      exact ⟨(attends_world.debug message state).trans (attends_world.debug message twin).symm, hsame⟩
    | query server timeoutMs => simp [world, hsame]
    | sleep ms => exact ⟨rfl, hsame⟩
    | isPrivileged => exact hkind.elim
    | setClock timeMs => exact hkind.elim
  have hopened : ({ config with testOnly := mode }.opened world r).replies =
      ({ config with testOnly := other }.opened world twin).replies := hreplies
  obtain ⟨-, hactions, -⟩ := Program.run_alike halike (only_acquire config) hopened
  rw [questions_synchronize, questions_synchronize, acquire_testOnly config mode, acquire_testOnly config other]
  exact congrArg questions hactions

/-- In test mode nothing asks for privilege or sets the clock. -/
theorem leavesClock_of_testOnly (config : Config) (method : String) (r : Rehearsal) (hmode : config.testOnly = true) :
    ∀ action ∈ Task.actions world (config.synchronize method) r, action.LeavesClock :=
  fun _ hmem => (only_synchronize_testOnly config method hmode).of_mem_actions world r hmem

/-- Three runs on the same replies, one in test mode, one without privilege, and one with privilege and
a clock setter that succeeds, ask the same questions. They end alike without the clock being set, or
else with one and the same time, which the first tells, the second denies and the third sets the clock
to, once. The run in test mode neither asks for privilege nor sets the clock. -/
theorem dry_run (config : Config) (method : String) (test denied applied : Rehearsal)
    (hdenied : denied.replies = test.replies) (happlied : applied.replies = test.replies)
    (hfree : test.scene.LogsFreely ∧ denied.scene.LogsFreely ∧ applied.scene.LogsFreely)
    (hunprivileged : denied.privileged = false) (hprivileged : applied.privileged = true)
    (name : String) (behaviour : Number → Option (Except Failure Unit)) (hsetter : applied.setter = .actor name behaviour)
    (hbehaviour : ∀ ms, behaviour ms = some (.ok ())) :
    let dry := { config with testOnly := true }.synchronize method
    let live := { config with testOnly := false }.synchronize method
    questions (Task.actions world live denied) = questions (Task.actions world dry test) ∧
      questions (Task.actions world live applied) = questions (Task.actions world dry test) ∧
      ((∃ result, (Task.perform world dry test).1 = some result ∧ (Task.perform world live denied).1 = some result ∧
          (Task.perform world live applied).1 = some result ∧ settings (Task.actions world live applied) = []) ∨
        ∃ timeMs m estimate,
          (Task.perform world dry test).1 =
            some (.ok ⟨.success, some (.testOnly timeMs), none, some m, some estimate⟩) ∧
          (Task.perform world live denied).1 =
            some (.ok ⟨Diagnosis.denied.fault.exitCode, some (.deny timeMs), none, some m, some estimate⟩) ∧
          (Task.perform world live applied).1 =
            some (.ok ⟨.success, some (.apply timeMs), none, some m, some estimate⟩) ∧
          settings (Task.actions world live applied) = [timeMs]) ∧
      ∀ action ∈ Task.actions world dry test, action.LeavesClock := by
  intro dry live
  obtain ⟨hfree₁, hfree₂, hfree₃⟩ := hfree
  have htest : (Task.perform world dry test).1 = _ :=
    perform_synchronize_eq { config with testOnly := true } hfree₁ (test.resolves_testOnly method)
  have hdeny : (Task.perform world live denied).1 = _ :=
    perform_synchronize_eq { config with testOnly := false } hfree₂ (resolves_unprivileged method hunprivileged)
  have happly : (Task.perform world live applied).1 = _ :=
    perform_synchronize_eq { config with testOnly := false } hfree₃
      (resolves_actor method hprivileged hsetter hbehaviour)
  -- All three foresee the same, but for what becomes of the time that the replies leave.
  rw [foreseen_testOnly] at htest hdeny happly
  rw [nextReplies_congr hdenied] at hdeny
  rw [nextReplies_congr happlied] at happly
  refine ⟨questions_eq config false true method hdenied, questions_eq config false true method happlied, ?_,
    leavesClock_of_testOnly { config with testOnly := true } method test rfl⟩
  by_cases hleaves : ∃ m estimate timeMs, config.Leaves (test.nextReplies config.retries.toNat) m estimate timeMs
  · obtain ⟨m, estimate, timeMs, hleaves⟩ := hleaves
    have hlive := (leaves_testOnly config false _ m estimate timeMs).mpr hleaves
    rw [← nextReplies_congr happlied] at hlive
    obtain ⟨told, htold⟩ := hleaves.announcement_testOnly method
    obtain ⟨set, hset⟩ := hleaves.announcement_apply method
    refine .inr ⟨timeMs, m, estimate, ?_, ?_, ?_, ?_⟩
    · rw [htest, hleaves.foreseen_eq_ok htold]
      rfl
    · rw [hdeny, hleaves.foreseen_eq_ok rfl]
      rfl
    · rw [happly, hleaves.foreseen_eq_ok hset]
      rfl
    · rw [settings_of_leaves method hfree₃ hlive]
      exact if_pos ⟨rfl, hprivileged⟩
  · have hnone : ∀ m estimate timeMs, ¬ config.Leaves (test.nextReplies config.retries.toNat) m estimate timeMs :=
      fun m estimate timeMs h => hleaves ⟨m, estimate, timeMs, h⟩
    refine .inl ⟨_, htest, ?_, ?_, ?_⟩
    · rw [hdeny, foreseen_of_not_leaves hnone method .deny .testOnly]
    · rw [happly, foreseen_of_not_leaves hnone method .apply .testOnly]
    · refine settings_of_not_leaves method hfree₃ fun m estimate timeMs h => ?_
      rw [nextReplies_congr happlied] at h
      exact hnone m estimate timeMs ((leaves_testOnly config false _ m estimate timeMs).mp h)

/-- With a server that is silent at first, all three runs come to the time that its second answer
leaves. -/
theorem dry_run_silentAtFirst :
    let dry := { threeAttempts with testOnly := true }.synchronize "date"
    let live := { threeAttempts with testOnly := false }.synchronize "date"
    questions (Task.actions world live (silentAtFirst false)) =
        questions (Task.actions world dry (silentAtFirst true)) ∧
      ∃ m estimate,
        (Task.perform world dry (silentAtFirst true)).1 =
          some (.ok ⟨.success, some (.testOnly 1750000000050), none, some m, some estimate⟩) ∧
        (Task.perform world live (silentAtFirst false)).1 =
          some (.ok ⟨Diagnosis.denied.fault.exitCode, some (.deny 1750000000050), none, some m, some estimate⟩) ∧
        (Task.perform world live (silentAtFirst true)).1 =
          some (.ok ⟨.success, some (.apply 1750000000050), none, some m, some estimate⟩) := by
  intro dry live
  have hset : settings (Task.actions world live (silentAtFirst true)) = [1750000000050] := by decide +kernel
  obtain ⟨hquestions, -, hresults, -⟩ := dry_run threeAttempts "date" (silentAtFirst true) (silentAtFirst false)
    (silentAtFirst true) rfl rfl ⟨.inl rfl, .inl rfl, .inl rfl⟩ rfl rfl "date" _ rfl fun _ => rfl
  refine ⟨hquestions, ?_⟩
  rcases hresults with ⟨-, -, -, -, hnone⟩ | ⟨timeMs, m, estimate, htest, hdeny, happly, htime⟩
  · exact absurd (hset.symm.trans hnone) (by decide)
  · obtain rfl : 1750000000050 = timeMs := by simpa using hset.symm.trans htime
    exact ⟨m, estimate, htest, hdeny, happly⟩

end Rehearsal

end Sntp
