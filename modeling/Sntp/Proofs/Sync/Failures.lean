import Sntp.Proofs.Sync.Foreseen
import Sntp.Proofs.Sync.Outcomes
import Sntp.Proofs.Sync.Settings

/-!
# What a synchronization can fail with

A task in two parts fails with what its parts fail with (`Task.FailsOnly.bind`), as long as what is assumed of the world
stays true. So reporting a measurement, deciding and announcing the decision fail with what a log message fails with, or
because of a time that cannot be written (`failsOnly_conclude`): the decision itself does not fail once the gates do not,
and one of a few things becomes of a time that they leave (`make_follows`, `gates_or_follows`).

`proceed_eq_ok` takes the outcome of a run apart, in any world: without an estimate there is no decision, and with one
the outcome is that of its conclusion.
-/

set_option autoImplicit false

namespace Sntp

variable {σ : Type} {world : World σ} {Inv : σ → Prop} {kind : σ → Failure → Prop}

/-- Whether a task fails with failures of one kind only, in all states of the world that have a property. The kind may
depend on the state that the task leaves when it fails. -/
def Task.FailsOnly {α : Type} (world : World σ) (Inv : σ → Prop) (kind : σ → Failure → Prop) (task : Task α) : Prop :=
  ∀ state, Inv state → ∀ failure, (Task.perform world task state).1 = some (.error failure) →
    kind (Task.perform world task state).2 failure

/-- A world in which a property lasts, and a message fails to be logged with failures of one kind only. -/
structure World.LogFailsOnly (world : World σ) (Inv : σ → Prop) (kind : σ → Failure → Prop) : Prop where
  lasts : ∀ action state, Inv state → Inv (world action state).2
  log : ∀ level message, Task.FailsOnly world Inv kind (Task.log level message)

namespace Task

variable {α β : Type}

/-- What lasts through every action lasts through a task. -/
theorem lasts_perform (hlasts : ∀ action state, Inv state → Inv (world action state).2) (task : Task α) {state : σ}
    (hstate : Inv state) : Inv (Task.perform world task state).2 :=
  Program.run_relates (fun before after => Inv before → Inv after) (fun _ => id) (fun _ _ _ first second => second ∘ first)
    (fun action state _ => hlasts action state) (Program.only_true task.run) state hstate

/-- Returning a value does not fail. -/
theorem failsOnly_pure (value : α) : FailsOnly world Inv kind (pure value : Task α) := by
  intro state _ failure h
  cases h

/-- Passing a result on fails only as the result does. -/
theorem failsOnly_ofExcept {result : Except Failure α} (h : ∀ state failure, result = .error failure → kind state failure) :
    FailsOnly world Inv kind (ofExcept result) := by
  intro state _ failure hrun
  rw [perform_ofExcept] at hrun ⊢
  exact h state failure (Option.some.inj hrun)

/-- A task in two parts fails with what its parts fail with. -/
theorem FailsOnly.bind (hlasts : ∀ action state, Inv state → Inv (world action state).2) {task : Task α}
    {next : α → Task β} (htask : FailsOnly world Inv kind task) (hnext : ∀ value, FailsOnly world Inv kind (next value)) :
    FailsOnly world Inv kind (task >>= next) := by
  intro state hstate failure h
  have hafter := lasts_perform hlasts task hstate
  have hfailure := htask state hstate
  rw [perform_bind] at h ⊢
  match hrun : perform world task state with
  | (none, after) =>
    rw [hrun] at h
    cases h
  | (some (.error own), after) =>
    rw [hrun] at hfailure h
    obtain rfl : own = failure := Except.error.inj (Option.some.inj h)
    exact hfailure own rfl
  | (some (.ok value), after) =>
    rw [hrun] at h hafter
    exact hnext value after hafter failure h

/-- A task in two parts ends in order when both of its parts do. -/
theorem exists_of_perform_bind {task : Task α} {next : α → Task β} {state : σ} {last : β}
    (h : (perform world (task >>= next) state).1 = some (.ok last)) :
    ∃ value, (perform world task state).1 = some (.ok value) ∧
      (perform world (next value) (perform world task state).2).1 = some (.ok last) := by
  rw [perform_bind] at h
  match hrun : perform world task state with
  | (none, after) =>
    rw [hrun] at h
    cases h
  | (some (.error failure), after) =>
    rw [hrun] at h
    cases h
  | (some (.ok value), after) =>
    rw [hrun] at h
    exact ⟨value, rfl, h⟩

end Task

section Outcomes

/-- A run that a failure ends has come to no decision, and it keeps the estimate it had. -/
theorem Outcome.of_failed {m : Option Measurement} {estimate : Option Estimate} {failure : Failure} {outcome : Outcome}
    (h : Outcome.failed m estimate failure = .ok outcome) :
    outcome.decision = none ∧ outcome.error = failure.diagnosis? ∧ outcome.estimate = estimate := by
  unfold Outcome.failed at h
  cases hdiagnosis : failure.diagnosis? with
  | none =>
    rw [hdiagnosis] at h
    cases h
  | some diagnosis =>
    rw [hdiagnosis] at h
    obtain rfl := Except.ok.inj h
    exact ⟨rfl, rfl, rfl⟩

/-- A run that was ended with a failure has come to the outcome of that failure. -/
theorem failed_of_ofFailure {m : Option Measurement} {estimate : Option Estimate} {failure : Failure} {state : σ}
    {outcome : Outcome} (h : (Task.perform world (Outcome.ofFailure m estimate failure) state).1 = some (.ok outcome)) :
    Outcome.failed m estimate failure = .ok outcome := by
  unfold Outcome.ofFailure at h
  unfold Outcome.failed
  cases hdiagnosis : failure.diagnosis? with
  | none =>
    rw [hdiagnosis] at h
    cases h
  | some diagnosis =>
    rw [hdiagnosis] at h
    obtain ⟨-, -, hreturned⟩ := Task.exists_of_perform_bind h
    exact Option.some.inj hreturned

/-- A run that concluded has come to the outcome of its conclusion. -/
theorem concluded_of_ofConclusion {m : Measurement} {estimate : Estimate} {conclusion : Except Failure Decision} {state : σ}
    {outcome : Outcome} (h : (Task.perform world (Outcome.ofConclusion m estimate conclusion) state).1 = some (.ok outcome)) :
    Outcome.concluded m estimate conclusion = .ok outcome := by
  cases conclusion with
  | error failure => exact failed_of_ofFailure h
  | ok decision => exact Option.some.inj h

/-- A run without an estimate comes to no decision, and one with an estimate comes to what its conclusion comes to. -/
theorem proceed_eq_ok {config : Config} {method : String} {result : Except Failure Measurement} {state : σ}
    {outcome : Outcome} (h : (Task.perform world (config.proceed method result) state).1 = some (.ok outcome)) :
    (outcome.decision = none ∧ outcome.estimate = none) ∨
      ∃ m estimate conclusion, result = .ok m ∧ m.sample.estimate = .ok estimate ∧
        (Task.perform world (config.conclude method m estimate) state).1 = some conclusion ∧
        Outcome.concluded m estimate conclusion = .ok outcome := by
  unfold Config.proceed at h
  cases result with
  | error failure =>
    obtain ⟨hdecision, -, hestimate⟩ := Outcome.of_failed (failed_of_ofFailure h)
    exact .inl ⟨hdecision, hestimate⟩
  | ok m =>
    simp only [] at h
    cases hestimate : m.sample.estimate with
    | error fault =>
      rw [hestimate] at h
      obtain ⟨hdecision, -, hnone⟩ := Outcome.of_failed (failed_of_ofFailure h)
      exact .inl ⟨hdecision, hnone⟩
    | ok estimate =>
      rw [hestimate] at h
      obtain ⟨conclusion, hconclusion, houtcome⟩ := Task.exists_of_perform_bind h
      rw [Task.perform_attempt] at hconclusion
      obtain ⟨own, hown, hsame⟩ := Option.map_eq_some_iff.mp hconclusion
      obtain rfl : own = conclusion := Except.ok.inj hsame
      exact .inr ⟨m, estimate, own, rfl, hestimate, hown, concluded_of_ofConclusion houtcome⟩

/-- A run with an estimate that comes to a conclusion goes on from where that leaves it. -/
theorem perform_proceed_of_conclude {config : Config} {method : String} {m : Measurement} {estimate : Estimate} {state : σ}
    {conclusion : Except Failure Decision} (hestimate : m.sample.estimate = .ok estimate)
    (h : (Task.perform world (config.conclude method m estimate) state).1 = some conclusion) :
    Task.perform world (config.proceed method (.ok m)) state = Task.perform world (Outcome.ofConclusion m estimate conclusion)
      (Task.perform world (config.conclude method m estimate) state).2 := by
  unfold Config.proceed
  simp only [hestimate]
  rw [Task.perform_bind, Task.perform_attempt, h]
  rfl

/-- A conclusion is what was decided. -/
theorem make_of_conclude {config : Config} {method : String} {m : Measurement} {estimate : Estimate} {state : σ}
    {decision : Decision} (h : (Task.perform world (config.conclude method m estimate) state).1 = some (.ok decision)) :
    ∃ after, (Task.perform world (Decision.make m.sample estimate config.testOnly method) after).1 = some (.ok decision) := by
  obtain ⟨-, -, hdecided⟩ := Task.exists_of_perform_bind h
  obtain ⟨made, hmade, hannounced⟩ := Task.exists_of_perform_bind hdecided
  obtain ⟨line, -, hlogged⟩ := Task.exists_of_perform_bind hannounced
  obtain ⟨-, -, hreturned⟩ := Task.exists_of_perform_bind hlogged
  obtain rfl : made = decision := Except.ok.inj (Option.some.inj hreturned)
  exact ⟨_, hmade⟩

end Outcomes

section Conclusion

/-- A time cannot be told only because it is out of the range of dates. -/
theorem isoTime_error {ms : Number} {failure : Failure} (h : isoTime ms = .error failure) : failure = .invalidTime := by
  unfold isoTime at h
  split at h
  · cases h
  · exact (Except.error.inj h).symm

/-- Nor can a text about it for another reason. -/
theorem isoTime_map_error {α : Type} {ms : Number} {told : String → α} {failure : Failure}
    (h : (isoTime ms).map told = .error failure) : failure = .invalidTime := by
  cases htime : isoTime ms with
  | ok text =>
    rw [htime] at h
    cases h
  | error own =>
    rw [htime] at h
    obtain rfl : own = failure := Except.error.inj h
    exact isoTime_error htime

/-- A line about a measurement that cannot be written tells of a time that names no moment. -/
theorem Measurement.lines_error {m : Measurement} {config : Config} {estimate : Estimate} {failure : Failure}
    (h : .error failure ∈ m.lines config estimate) : failure = .invalidTime := by
  unfold lines at h
  simp only [List.mem_cons, reduceCtorEq, List.not_mem_nil, false_or, or_false] at h
  rcases h with h | h
  · exact isoTime_map_error h.symm
  · exact isoTime_map_error h.symm

/-- A decision cannot be announced only because its time is out of the range of dates. -/
theorem Decision.announcement_error {method : String} {decision : Decision} {failure : Failure}
    (h : decision.announcement method = .error failure) : failure = .invalidTime := by
  cases decision with
  | testOnly timeMs => exact isoTime_map_error h
  | apply timeMs => exact isoTime_map_error h
  | _ => cases h

/-- One of a few things becomes of a time that the gates leave, unless the question for privilege is not answered or the
clock setter never ends. -/
theorem make_follows (world : World σ) {sample : Sample} {estimate : Estimate} {timeMs : Int}
    (hassess : assess sample estimate = .ok (.inr timeMs)) (testOnly : Bool) (method : String) (state : σ) :
    (∃ decision, (Task.perform world (Decision.make sample estimate testOnly method) state).1 = some (.ok decision) ∧
        decision.Follows timeMs) ∨
      (Task.perform world (Decision.make sample estimate testOnly method) state).1 = none ∧
        ((world .isPrivileged state).1 = none ∨
          settings (Task.actions world (Decision.make sample estimate testOnly method) state) = [timeMs] ∧
            (world (.setClock timeMs) (world .isPrivileged state).2).1 = none) := by
  have hsettings : settings (Task.actions world (Decision.make sample estimate testOnly method) state) = _ :=
    settings_make sample estimate testOnly method state
  rw [hassess] at hsettings
  rw [perform_make, hassess]
  cases testOnly with
  | true => exact .inl ⟨.testOnly timeMs, rfl, .testOnly⟩
  | false =>
    simp only [Bool.false_eq_true, if_false]
    match hasked : world .isPrivileged state with
    | (none, after) => exact .inr ⟨rfl, .inl rfl⟩
    | (some false, after) => exact .inl ⟨.deny timeMs, rfl, .deny⟩
    | (some true, after) =>
      simp only [hasked, and_self, if_true] at hsettings ⊢
      match world (.setClock timeMs) after with
      | (none, later) => exact .inr ⟨rfl, .inr ⟨hsettings, rfl⟩⟩
      | (some result, later) =>
        exact .inl ⟨Decision.afterSetting method timeMs result, rfl, Decision.afterSetting_follows method timeMs result⟩

/-- A decision that is made is the gates' own, or it follows from the time that they leave. -/
theorem gates_or_follows {sample : Sample} {estimate : Estimate} {testOnly : Bool} {method : String} {state : σ}
    {decision : Decision}
    (h : (Task.perform world (Decision.make sample estimate testOnly method) state).1 = some (.ok decision)) :
    assess sample estimate = .ok (.inl decision) ∨
      ∃ timeMs, assess sample estimate = .ok (.inr timeMs) ∧ decision.Follows timeMs := by
  match hassess : assess sample estimate with
  | .error failure => simp [perform_make, hassess] at h
  | .ok (.inl own) =>
    rw [perform_make, hassess] at h
    obtain rfl : own = decision := Except.ok.inj (Option.some.inj h)
    exact .inl rfl
  | .ok (.inr timeMs) =>
    rcases make_follows world hassess testOnly method state with ⟨made, hmade, hfollows⟩ | ⟨hends, -⟩
    · obtain rfl : made = decision := Except.ok.inj (Option.some.inj (hmade.symm.trans h))
      exact .inr ⟨timeMs, rfl, hfollows⟩
    · cases hends.symm.trans h

/-- The decision fails with the gates only. -/
theorem make_ne_error {sample : Sample} {estimate : Estimate} (hgates : ∀ failure, assess sample estimate ≠ .error failure)
    (testOnly : Bool) (method : String) (state : σ) (failure : Failure) :
    (Task.perform world (Decision.make sample estimate testOnly method) state).1 ≠ some (.error failure) := by
  match hassess : assess sample estimate with
  | .error own => exact absurd hassess (hgates own)
  | .ok (.inl decision) => simp [perform_make, hassess]
  | .ok (.inr timeMs) =>
    rcases make_follows world hassess testOnly method state with ⟨decision, hmade, -⟩ | ⟨hends, -⟩
    · simp [hmade]
    · simp [hends]

variable (hworld : world.LogFailsOnly Inv kind)

include hworld

/-- Writing lines fails as one of them does, or as the log does. -/
theorem failsOnly_writeLines {lines : List (Except Failure String)}
    (hlines : ∀ state failure, .error failure ∈ lines → kind state failure) :
    Task.FailsOnly world Inv kind (writeLines lines) := by
  induction lines with
  | nil => exact Task.failsOnly_pure ()
  | cons line rest ih =>
    have hline : ∀ state failure, line = .error failure → kind state failure := fun state failure h =>
      hlines state failure (h ▸ List.mem_cons_self)
    have hrest := ih fun state failure hmem => hlines state failure (List.mem_cons_of_mem line hmem)
    exact (Task.failsOnly_ofExcept hline).bind hworld.lasts fun text =>
      (hworld.log .debug text).bind hworld.lasts fun _ => hrest

/-- Where the gates do not fail, a run fails after its measurement only with what a log message fails with, and for a
time that cannot be written. -/
theorem failsOnly_conclude (config : Config) (method : String) {m : Measurement} {estimate : Estimate}
    (htime : ∀ state, kind state .invalidTime) (hgates : ∀ failure, assess m.sample estimate ≠ .error failure) :
    Task.FailsOnly world Inv kind (config.conclude method m estimate) := by
  have hreport : Task.FailsOnly world Inv kind (config.report m estimate) := by
    refine (failsOnly_writeLines hworld fun state failure hmem => ?_).bind hworld.lasts fun _ => ?_
    · exact (Measurement.lines_error hmem).symm ▸ htime state
    · by_cases hsystem : config.useSystemLog
      · simpa [hsystem] using hworld.log .info _
      · simpa [hsystem] using Task.failsOnly_pure ()
  have hmake : Task.FailsOnly world Inv kind (Decision.make m.sample estimate config.testOnly method) := by
    intro state _ failure h
    exact absurd h (make_ne_error hgates config.testOnly method state failure)
  have hannounce : ∀ decision, Task.FailsOnly world Inv kind (Decision.announce method decision) := by
    intro decision
    refine (Task.failsOnly_ofExcept fun state failure h => ?_).bind hworld.lasts fun line => ?_
    · exact (Decision.announcement_error h).symm ▸ htime state
    · exact (hworld.log line.1 line.2).bind hworld.lasts fun _ => Task.failsOnly_pure decision
  exact hreport.bind hworld.lasts fun _ => hmake.bind hworld.lasts hannounce

end Conclusion

end Sntp
