import Sntp.Proofs.Rehearsal.DryRun

/-!
# The attempts of a rehearsal

The acquisition asks one question for each reply that it tries, with a pause between any two
(`questions_attempts`). It stops at the first reply that does not call for another attempt and ends with what
that reply brought; if every reply calls for another, all attempts are made, and the last of the failures is
the cause of its own (`acquire_first_decisive`).
-/

set_option autoImplicit false

namespace Sntp

/-- The questions among two lists of actions are those of each of them. -/
theorem questions_append (first second : List Action) : questions (first ++ second) = questions first ++ questions second :=
  List.filter_append ..

/-- A question comes first among the questions of the actions that it begins. -/
theorem questions_cons_of {action : Action} (h : action.isQuestion) (rest : List Action) :
    questions (action :: rest) = action :: questions rest := List.filter_cons_of_pos h

/-- An action that is no question does not count among them. -/
theorem questions_cons_of_not {action : Action} (h : action.isQuestion = false) (rest : List Action) :
    questions (action :: rest) = questions rest := List.filter_cons_of_neg (by simp [h])

namespace Rehearsal

/-- There are as many next answers as are asked for. -/
theorem length_nextReplies (r : Rehearsal) (count : Nat) : (r.nextReplies count).length = count := by
  simp [nextReplies]

/-- The replies are asked for one after the other, with a pause between any two. -/
theorem questions_attempts (config : Config) (last : Option Failure) (number left : Nat) (r : Rehearsal) :
    questions (Task.actions world (config.attempts last number left) r) =
      config.rounds (Config.tried (r.nextReplies left)).length := by
  -- By the attempts that are left; the answers that are left are the same after every pause.
  induction left generalizing last number r with
  | zero => rfl
  | succ left ih =>
    have hquery := world_query_debugged config.server config.timeoutMs (config.attemptLine number) r
    rw [config.actions_attempts attends_world last number left r _ _ hquery, nextReplies_succ]
    by_cases hretry : (r.reply 0).IsRetryable
    · obtain ⟨failure, hmeasured, hfailure⟩ := (r.reply 0).isRetryable_iff.mp hretry
      have hrest : ∀ later : Rehearsal, later.replies = (nextScript noReply r.replies).2 →
          questions (Task.actions world (config.attempts (some failure) (number + 1) left) later) =
            config.rounds (Config.tried
              ({ r with replies := (nextScript noReply r.replies).2 }.nextReplies left)).length := by
        intro later hlater
        have hsame : later.nextReplies left = { r with replies := (nextScript noReply r.replies).2 }.nextReplies left :=
          nextReplies_congr hlater left
        rw [ih, hsame]
      rw [Config.tried_of_retryable hretry, List.length_cons, Config.rounds_succ]
      simp only [hmeasured, hfailure, if_true, ne_eq, Config.length_tried_eq_zero_iff, length_nextReplies]
      rw [questions_cons_of_not rfl, questions_cons_of rfl, questions_cons_of_not rfl, questions_append,
        hrest _ (rested_replies left _)]
      by_cases hleft : left = 0
      · rw [if_neg (not_not_intro hleft), if_neg (not_not_intro hleft)]
        rfl
      · rw [if_pos hleft, if_pos hleft]
        rfl
    · rw [Config.tried_of_not_retryable hretry]
      cases hmeasured : (r.reply 0).measurement with
      | ok m => rfl
      | error failure =>
        rw [Reply.isRetryable_iff_of_error hmeasured] at hretry
        simp only [hretry]
        rfl

/-- The replies that are allowed, with one of them in its place. -/
theorem exists_nextReplies_eq (r : Rehearsal) {number count : Nat} (h : number < count) :
    ∃ rest, r.nextReplies count = r.nextReplies number ++ r.reply number :: rest := by
  obtain ⟨left, rfl⟩ := Nat.exists_eq_add_of_lt h
  refine ⟨(List.range left).map fun later => r.reply (number + (later + 1)), ?_⟩
  unfold nextReplies
  rw [Nat.add_assoc, List.range_add, List.map_append, List.range_succ_eq_map]
  simp [Function.comp_def]

/-- One more answer comes after the others. -/
theorem nextReplies_concat (r : Rehearsal) (count : Nat) :
    r.nextReplies (count + 1) = r.nextReplies count ++ [r.reply count] := by
  unfold nextReplies
  rw [List.range_succ, List.map_append]
  rfl

/-- Either all replies that are allowed call for another attempt, or there is a first that does not. -/
theorem retryable_or_decisive (r : Rehearsal) (count : Nat) :
    (∀ number, number < count → (r.reply number).IsRetryable) ∨
      ∃ number, number < count ∧ (∀ earlier, earlier < number → (r.reply earlier).IsRetryable) ∧
        ¬ (r.reply number).IsRetryable := by
  induction count with
  | zero => exact .inl fun number h => absurd h (Nat.not_lt_zero number)
  | succ count ih =>
    rcases ih with hretryable | ⟨number, hnumber, hfirst⟩
    · by_cases hlast : (r.reply count).IsRetryable
      · refine .inl fun number hnumber => ?_
        rcases Nat.lt_succ_iff_lt_or_eq.mp hnumber with hless | rfl
        · exact hretryable number hless
        · exact hlast
      · exact .inr ⟨count, Nat.lt_succ_self count, hretryable, hlast⟩
    · exact .inr ⟨number, Nat.lt_succ_of_lt hnumber, hfirst⟩

section

variable {config : Config} {r : Rehearsal} {number : Nat}

/-- The acquisition ends with the first answer that calls for no other attempt, and asks no more than it takes to get
it. -/
theorem acquire_of_decisive (hnumber : number < config.retries.toNat)
    (hearlier : ∀ earlier, earlier < number → (r.reply earlier).IsRetryable) (hdecisive : ¬ (r.reply number).IsRetryable) :
    questions (Task.actions world config.acquire r) = config.rounds (number + 1) ∧
      (Task.perform world config.acquire r).1 = some (r.reply number).measurement := by
  obtain ⟨rest, hreplies⟩ := r.exists_nextReplies_eq hnumber
  have hfailed := forall_mem_nextReplies hearlier
  constructor
  · unfold Config.acquire
    rw [questions_attempts, hreplies, Config.tried_append hfailed, Config.tried_of_not_retryable hdecisive]
    simp [length_nextReplies]
  · obtain ⟨later, hlater⟩ := config.acquired_append none hfailed (r.reply number :: rest)
    rw [perform_acquire, hreplies, hlater, config.acquired_of_not_retryable later hdecisive]

/-- If every answer calls for another attempt, all attempts are made, and the failure tells of the last one. -/
theorem acquire_of_retryable (hretries : 1 ≤ config.retries)
    (hretryable : ∀ number, number < config.retries.toNat → (r.reply number).IsRetryable) :
    questions (Task.actions world config.acquire r) = config.rounds config.retries.toNat ∧
      ∃ cause, (r.reply (config.retries.toNat - 1)).measurement = .error cause ∧
        (Task.perform world config.acquire r).1 =
          some (.error (.faultFrom (.retriesExhausted config.server config.retries) cause)) := by
  have hfailed := forall_mem_nextReplies hretryable
  constructor
  · unfold Config.acquire
    have htried := Config.tried_append hfailed []
    rw [List.append_nil] at htried
    rw [questions_attempts, htried]
    simp [Config.tried, length_nextReplies]
  · obtain ⟨count, hcount⟩ : ∃ count, config.retries.toNat = count + 1 := ⟨config.retries.toNat - 1, by omega⟩
    have hearlier : ∀ reply ∈ r.nextReplies count, reply.IsRetryable :=
      forall_mem_nextReplies fun number h => hretryable number (by omega)
    obtain ⟨cause, hmeasured, hcause⟩ := (r.reply count).isRetryable_iff.mp (hretryable count (by omega))
    obtain ⟨later, hlater⟩ := config.acquired_append none hearlier [r.reply count]
    refine ⟨cause, by rw [hcount]; exact hmeasured, ?_⟩
    rw [perform_acquire, hcount, nextReplies_concat, hlater]
    simp only [Config.acquired, hmeasured, hcause, if_true]
    rfl

end

/-- The acquisition stops at the first reply that does not call for another attempt, after a pause between any
two queries and none after the last. It ends with the exchange that this reply is, what its response says and
the times taken from both, or with the failure that this reply is. If all replies that are allowed call for
another attempt, it asks for all of them, and fails for want of attempts, because of the last failure. So
responses alone, whatever they hold, can lead to no other failure. -/
theorem acquire_first_decisive (config : Config) (r : Rehearsal) (hretries : 1 ≤ config.retries) :
    let asked := questions (Task.actions world config.acquire r)
    let result := (Task.perform world config.acquire r).1
    (∀ number, number < config.retries.toNat → (∀ earlier, earlier < number → (r.reply earlier).IsRetryable) →
      ¬ (r.reply number).IsRetryable →
        asked = config.rounds (number + 1) ∧
          match r.reply number with
          | .ok exchange => ∃ response, Response.ofBytes exchange.response = .ok response ∧
              result = some (.ok
                { exchange, response
                  sample := ⟨exchange.localSendMs, exchange.localRecvMs, response.transmitMs⟩ })
          | .error failure => result = some (.error failure)) ∧
      ((∀ number, number < config.retries.toNat → (r.reply number).IsRetryable) →
        asked = config.rounds config.retries.toNat ∧
          ∃ cause, (r.reply (config.retries.toNat - 1)).measurement = .error cause ∧
            result = some (.error (.faultFrom (.retriesExhausted config.server config.retries) cause))) ∧
      ((∀ number, number < config.retries.toNat → ∃ exchange, r.reply number = .ok exchange) →
        ∃ ending, result = some ending ∧ ∀ failure, ending = .error failure →
          ∃ cause, failure = .faultFrom (.retriesExhausted config.server config.retries) cause) := by
  intro asked result
  refine ⟨fun number hnumber hearlier hdecisive => ?_, acquire_of_retryable hretries, fun hexchanges => ?_⟩
  · obtain ⟨hasked, hresult⟩ := acquire_of_decisive hnumber hearlier hdecisive
    refine ⟨hasked, ?_⟩
    cases hreply : r.reply number with
    | ok exchange =>
      rw [hreply] at hdecisive hresult
      obtain ⟨response, hresponse, hmeasured⟩ := Reply.exists_measurement hdecisive
      exact ⟨response, hresponse, hresult.trans (congrArg some hmeasured)⟩
    | error failure =>
      rw [hreply] at hresult
      exact hresult
  · -- Either every answer calls for another attempt, or there is a first one that does not.
    rcases r.retryable_or_decisive config.retries.toNat with hretryable | ⟨number, hnumber, hearlier, hdecisive⟩
    · obtain ⟨-, cause, -, hresult⟩ := acquire_of_retryable hretries hretryable
      refine ⟨_, hresult, ?_⟩
      rintro failure ⟨⟩
      exact ⟨cause, rfl⟩
    · obtain ⟨-, hresult⟩ := acquire_of_decisive hnumber hearlier hdecisive
      obtain ⟨exchange, hreply⟩ := hexchanges number hnumber
      rw [hreply] at hdecisive hresult
      obtain ⟨response, -, hmeasured⟩ := Reply.exists_measurement hdecisive
      rw [hmeasured] at hresult
      exact ⟨_, hresult, nofun⟩

set_option maxRecDepth 4000 in
/-- A server that is silent at first is asked twice, with a pause in between, and gives a measurement. -/
theorem acquire_first_decisive_silentAtFirst :
    (1 : Int) ≤ threeAttempts.retries ∧
      questions (Task.actions world threeAttempts.acquire (silentAtFirst false)) =
        [.query "pool.ntp.org" 2000, .sleep 200, .query "pool.ntp.org" 2000] ∧
      ∃ response, Response.ofBytes lateExchange.response = .ok response ∧
        (Task.perform world threeAttempts.acquire (silentAtFirst false)).1 =
          some (.ok ⟨lateExchange, response, ⟨Number.ofInt 1749999990000, Number.ofInt 1749999990100, response.transmitMs⟩⟩) := by
  have hretries : (1 : Int) ≤ threeAttempts.retries := by decide
  have hretry : ∀ earlier, earlier < 1 → ((silentAtFirst false).reply earlier).IsRetryable := by
    intro earlier hearlier
    obtain rfl := Nat.lt_one_iff.mp hearlier
    rfl
  have hread : ¬ ((silentAtFirst false).reply 1).IsRetryable := by
    rintro ⟨fault, hfault⟩
    obtain ⟨response, hresponse⟩ : ∃ response, Response.ofBytes lateExchange.response = .ok response := ⟨_, rfl⟩
    exact absurd (hresponse.symm.trans hfault) nofun
  obtain ⟨hasked, hresult⟩ := (acquire_first_decisive threeAttempts (silentAtFirst false) hretries).1 1 (by decide) hretry hread
  exact ⟨hretries, hasked, hresult⟩

end Rehearsal

end Sntp
