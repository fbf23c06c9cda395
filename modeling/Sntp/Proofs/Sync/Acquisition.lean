import Sntp.Proofs.Packet.Reading
import Sntp.Proofs.Run
import Sntp.Sync.Acquire

/-!
# Getting the time, reply by reply

Getting the time asks for replies until one of them does not call for another attempt, or until no
attempts are left. `Config.acquired` computes from the replies alone what is got; `perform_attempts`
says what one attempt does in a world that answers (`World.Attends`), and `actions_attempts` with which
actions. The replies that are asked for are those up to the first that is not followed by another attempt
(`Config.tried`).

A reply calls for another attempt exactly if its measurement fails with a failure that does
(`Reply.isRetryable_iff`), as a response that cannot be read always does.
-/

set_option autoImplicit false

namespace Sntp

/-- What comes of a query. -/
abbrev Reply := Except Failure Exchange

namespace Reply

/-- The measurement that a reply gives, if it brought a response that can be used. -/
def measurement : Reply → Except Failure Measurement
  | .ok exchange => exchange.measurement
  | .error failure => .error failure

/-- Whether a reply calls for another attempt: a fault that may pass, or a response that cannot be
read. -/
def IsRetryable : Reply → Prop
  | .ok exchange => ∃ fault, Response.ofBytes exchange.response = .error fault
  | .error failure => failure.isRetryable

/-- An exchange whose response is read gives a measurement, and nothing else does. -/
theorem measurement_ok_iff (reply : Reply) (m : Measurement) :
    reply.measurement = .ok m ↔
      ∃ exchange response, reply = .ok exchange ∧ Response.ofBytes exchange.response = .ok response ∧
        m = ⟨exchange, response, ⟨exchange.localSendMs, exchange.localRecvMs, response.transmitMs⟩⟩ := by
  cases reply with
  | error failure => simp [measurement]
  | ok exchange =>
    simp only [measurement, Exchange.measurement]
    cases h : Response.ofBytes exchange.response with
    | error fault => simp [h]
    | ok response => simp [h, eq_comm]

/-- A reply calls for another attempt exactly if its measurement fails with a failure that does. -/
theorem isRetryable_iff (reply : Reply) :
    reply.IsRetryable ↔ ∃ failure, reply.measurement = .error failure ∧ failure.isRetryable := by
  cases reply with
  | error failure => simp [measurement, IsRetryable]
  | ok exchange =>
    simp only [measurement, Exchange.measurement, IsRetryable]
    cases h : Response.ofBytes exchange.response with
    | error fault =>
      have hfault : (Failure.fault fault).isRetryable := Response.ofBytes_error_retryable h
      simp [hfault]
    | ok response => simp

/-- An exchange that calls for no other attempt has a response that is read, and gives a measurement. -/
theorem exists_measurement {exchange : Exchange} (h : ¬ IsRetryable (.ok exchange)) :
    ∃ response, Response.ofBytes exchange.response = .ok response ∧
      measurement (.ok exchange) =
        .ok ⟨exchange, response, ⟨exchange.localSendMs, exchange.localRecvMs, response.transmitMs⟩⟩ := by
  cases hresponse : Response.ofBytes exchange.response with
  | error fault => exact absurd ⟨fault, hresponse⟩ h
  | ok response => exact ⟨response, rfl, (measurement_ok_iff _ _).mpr ⟨exchange, response, rfl, hresponse, rfl⟩⟩

/-- A reply that gives no measurement calls for another attempt exactly if its failure does. -/
theorem isRetryable_iff_of_error {reply : Reply} {failure : Failure} (h : reply.measurement = .error failure) :
    reply.IsRetryable ↔ failure.isRetryable := by
  rw [isRetryable_iff, h]
  simp

/-- A failure that calls for no other attempt is that of the query. -/
theorem eq_error_of_measurement {reply : Reply} {failure : Failure} (h : reply.measurement = .error failure)
    (hlasting : ¬ failure.isRetryable) : reply = .error failure := by
  cases reply with
  | error other =>
    obtain rfl : other = failure := Except.error.inj h
    rfl
  | ok exchange =>
    by_cases hread : IsRetryable (.ok exchange)
    · exact absurd ((isRetryable_iff_of_error h).mp hread) hlasting
    · obtain ⟨response, -, hmeasured⟩ := exists_measurement hread
      cases hmeasured.symm.trans h

end Reply

namespace Config

/-- What is got from replies, the last fault before them being known. -/
def acquired (config : Config) (last : Option Failure) : List Reply → Except Failure Measurement
  | [] => .error (config.exhausted last)
  | reply :: rest =>
    match reply.measurement with
    | .ok m => .ok m
    | .error failure => if failure.isRetryable then config.acquired (some failure) rest else .error failure

/-- What is found after skipping some places is found at the first place, or after that one was skipped. -/
theorem exists_first_succ (skips found : Nat → Prop) (count : Nat) :
    (∃ number, number < count + 1 ∧ (∀ earlier, earlier < number → skips earlier) ∧ found number) ↔
      found 0 ∨ skips 0 ∧ ∃ number, number < count ∧ (∀ earlier, earlier < number → skips (earlier + 1)) ∧
        found (number + 1) := by
  constructor
  · rintro ⟨number, hnumber, hskips, hfound⟩
    cases number with
    | zero => exact .inl hfound
    | succ number =>
      refine .inr ⟨hskips 0 (Nat.succ_pos number), number, Nat.lt_of_succ_lt_succ hnumber, fun earlier hearlier => ?_, hfound⟩
      exact hskips (earlier + 1) (Nat.succ_lt_succ hearlier)
  · rintro (hfound | ⟨hfirst, number, hnumber, hskips, hfound⟩)
    · exact ⟨0, Nat.succ_pos count, fun earlier hearlier => absurd hearlier (Nat.not_lt_zero earlier), hfound⟩
    · refine ⟨number + 1, Nat.succ_lt_succ hnumber, fun earlier hearlier => ?_, hfound⟩
      cases earlier with
      | zero => exact hfirst
      | succ earlier => exact hskips earlier (Nat.lt_of_succ_lt_succ hearlier)

/-- A measurement is got exactly if some reply gives it and every one before calls for another
attempt. -/
theorem acquired_eq_ok_iff (config : Config) (last : Option Failure) (reply : Nat → Reply) (count : Nat)
    (m : Measurement) :
    config.acquired last ((List.range count).map reply) = .ok m ↔
      ∃ number, number < count ∧ (∀ earlier, earlier < number → (reply earlier).IsRetryable) ∧
        (reply number).measurement = .ok m := by
  induction count generalizing last reply with
  | zero => simp [acquired]
  | succ count ih =>
    rw [exists_first_succ (fun number => (reply number).IsRetryable) (fun number => (reply number).measurement = .ok m),
      List.range_succ_eq_map, List.map_cons, List.map_map, (reply 0).isRetryable_iff]
    have hrest := fun failure => ih (some failure) fun number => reply (number + 1)
    simp only [acquired]
    cases (reply 0).measurement with
    | ok first => simp
    | error failure =>
      by_cases hretry : failure.isRetryable
      · -- The other replies decide, each of them counted one less.
        simp only [hretry, if_true]
        exact (hrest failure).trans (by simp [hretry])
      · simp [hretry]

/-- A measurement that is got is that of one of the replies. -/
theorem exists_mem_of_acquired {config : Config} {last : Option Failure} {replies : List Reply} {m : Measurement}
    (h : config.acquired last replies = .ok m) : ∃ reply ∈ replies, reply.measurement = .ok m := by
  induction replies generalizing last with
  | nil => cases h
  | cons reply rest ih =>
    unfold acquired at h
    cases hmeasured : reply.measurement with
    | ok first =>
      rw [hmeasured] at h
      exact ⟨reply, List.mem_cons_self, hmeasured.trans h⟩
    | error failure =>
      by_cases hretry : failure.isRetryable
      · simp only [hmeasured, hretry, if_true] at h
        obtain ⟨later, hmem, hlater⟩ := ih h
        exact ⟨later, List.mem_cons_of_mem reply hmem, hlater⟩
      · simp [hmeasured, hretry] at h

/-- Where none is got, no attempts are left, or the last query failed in a way that calls for no other. -/
theorem exhausted_or_mem_of_acquired {config : Config} {last : Option Failure} {replies : List Reply} {failure : Failure}
    (h : config.acquired last replies = .error failure) :
    (∃ cause, failure = config.exhausted cause) ∨ .error failure ∈ replies ∧ ¬ failure.isRetryable := by
  induction replies generalizing last with
  | nil => exact .inl ⟨last, (Except.error.inj h).symm⟩
  | cons reply rest ih =>
    unfold acquired at h
    cases hmeasured : reply.measurement with
    | ok first =>
      rw [hmeasured] at h
      cases h
    | error own =>
      by_cases hretry : own.isRetryable
      · simp only [hmeasured, hretry, if_true] at h
        rcases ih h with hexhausted | ⟨hmem, hlasting⟩
        · exact .inl hexhausted
        · exact .inr ⟨List.mem_cons_of_mem reply hmem, hlasting⟩
      · simp only [hmeasured, hretry] at h
        obtain rfl := Except.error.inj h
        exact .inr ⟨Reply.eq_error_of_measurement hmeasured hretry ▸ List.mem_cons_self, hretry⟩

/-- The replies that the acquisition asks for: those that call for another attempt, and the next one. -/
def tried : List Reply → List Reply
  | [] => []
  | reply :: rest =>
    match reply.measurement with
    | .ok _ => [reply]
    | .error failure => if failure.isRetryable then reply :: tried rest else [reply]

/-- A number of queries, with a pause between any two of them. -/
def rounds (config : Config) (count : Nat) : List Action :=
  (List.replicate count (.query config.server config.timeoutMs)).intersperse (.sleep 200)

/-- A round more is a query in front, and a pause after it if others follow. -/
theorem rounds_succ (config : Config) (count : Nat) :
    config.rounds (count + 1) =
      .query config.server config.timeoutMs :: ((if count ≠ 0 then [.sleep 200] else []) ++ config.rounds count) := by
  cases count <;> rfl

section

variable {reply : Reply} {failed : List Reply}

/-- After a reply that calls for another attempt, the next one is asked for. -/
theorem tried_of_retryable (h : reply.IsRetryable) (rest : List Reply) : tried (reply :: rest) = reply :: tried rest := by
  obtain ⟨failure, hmeasured, hretry⟩ := reply.isRetryable_iff.mp h
  simp [tried, hmeasured, hretry]

/-- After a reply that does not, none is. -/
theorem tried_of_not_retryable (h : ¬ reply.IsRetryable) (rest : List Reply) : tried (reply :: rest) = [reply] := by
  unfold tried
  cases hmeasured : reply.measurement with
  | ok m => rfl
  | error failure =>
    rw [Reply.isRetryable_iff_of_error hmeasured] at h
    exact if_neg h

/-- No reply is asked for only if there is none. -/
theorem length_tried_eq_zero_iff (replies : List Reply) : (tried replies).length = 0 ↔ replies.length = 0 := by
  cases replies with
  | nil => rfl
  | cons reply rest =>
    by_cases hretry : reply.IsRetryable
    · simp [tried_of_retryable hretry]
    · simp [tried_of_not_retryable hretry]

/-- After replies that all call for another attempt, the acquisition goes on with the rest. -/
theorem tried_append (hfailed : ∀ reply ∈ failed, reply.IsRetryable) (rest : List Reply) :
    tried (failed ++ rest) = failed ++ tried rest := by
  induction failed with
  | nil => rfl
  | cons first failed ih =>
    rw [List.cons_append, tried_of_retryable (hfailed first List.mem_cons_self),
      ih fun reply hmem => hfailed reply (List.mem_cons_of_mem first hmem)]
    rfl

/-- What is got after replies that call for another attempt depends on the others, and on the last fault. -/
theorem acquired_append (config : Config) (last : Option Failure) (hfailed : ∀ reply ∈ failed, reply.IsRetryable)
    (rest : List Reply) : ∃ later, config.acquired last (failed ++ rest) = config.acquired later rest := by
  induction failed generalizing last with
  | nil => exact ⟨last, rfl⟩
  | cons first failed ih =>
    obtain ⟨failure, hmeasured, hretry⟩ := first.isRetryable_iff.mp (hfailed first List.mem_cons_self)
    obtain ⟨later, hlater⟩ := ih (some failure) fun reply hmem => hfailed reply (List.mem_cons_of_mem first hmem)
    exact ⟨later, by simpa [acquired, hmeasured, hretry] using hlater⟩

/-- A reply that calls for no other attempt decides what is got. -/
theorem acquired_of_not_retryable (config : Config) (last : Option Failure) (h : ¬ reply.IsRetryable)
    (rest : List Reply) : config.acquired last (reply :: rest) = reply.measurement := by
  unfold acquired
  cases hmeasured : reply.measurement with
  | ok m => rfl
  | error failure =>
    rw [Reply.isRetryable_iff_of_error hmeasured] at h
    exact if_neg h

end

end Config

/-- A world in which queries and pauses end, and debug messages are written. -/
structure World.Attends {σ : Type} (world : World σ) : Prop where
  debug : ∀ message state, (world (.log .debug message) state).1 = some (.ok ())
  query : ∀ server timeoutMs state, (world (.query server timeoutMs) state).1.isSome
  sleep : ∀ ms state, (world (.sleep ms) state).1 = some ()

namespace World

variable {σ : Type} (world : World σ)

/-- The state after a debug message. -/
def debugged (message : String) (state : σ) : σ := (world (.log .debug message) state).2

/-- The state after the pause before another attempt, if one is left. -/
def rested (left : Nat) (state : σ) : σ := if left = 0 then state else (world (.sleep retryDelay) state).2

variable {world}

/-- In a world that attends, a debug message is logged. -/
theorem Attends.perform_debug (hworld : world.Attends) (message : String) (state : σ) :
    Task.perform world (Task.log .debug message) state = (some (.ok ()), world.debugged message state) := by
  rw [Task.perform_log]
  exact Prod.ext (hworld.debug message state) rfl

end World

/-- The label of an attempt in the log. -/
def attemptLabel (number : Nat) : String := "Attempt (" ++ Number.integerText number ++ ")"

/-- The message about an attempt that begins. -/
def Config.attemptLine (config : Config) (number : Nat) : String :=
  attemptLabel number ++ " at NTP query on " ++ config.server ++ " ..."

/-- The message about an attempt that failed. -/
def attemptFailedLine (number : Nat) (failure : Failure) : String :=
  attemptLabel number ++ " failed: " ++ failure.summary

/-- An attempt asks for a reply and then ends the acquisition, or goes on after a pause. -/
theorem Config.attempts_succ (config : Config) (last : Option Failure) (number left : Nat) :
    config.attempts last number (left + 1) = (do
      Task.log .debug (config.attemptLine number)
      match ← Task.attempt config.measure with
      | .ok m => return m
      | .error failure =>
        if failure.isRetryable then
          Task.log .debug (attemptFailedLine number failure)
          if left ≠ 0 then Task.sleep retryDelay
          config.attempts (some failure) (number + 1) left
        else throw failure) := rfl

variable {σ : Type} {world : World σ}

/-- A measurement comes to what the reply gives. -/
theorem Config.perform_measure (config : Config) (state after : σ) (reply : Reply)
    (hreply : world (.query config.server config.timeoutMs) state = (some reply, after)) :
    Task.perform world config.measure state = (some reply.measurement, after) := by
  unfold Config.measure
  rw [Task.perform_bind, Task.perform_query, hreply]
  cases reply with
  | ok exchange => simp [Reply.measurement]
  | error failure => rfl

/-- In a world that attends, the pause before another attempt ends. -/
theorem World.Attends.perform_pause (hworld : world.Attends) (left : Nat) (rest : Task Measurement) (state : σ) :
    Task.perform world (do
      if left ≠ 0 then Task.sleep retryDelay
      rest) state = Task.perform world rest (world.rested left state) := by
  unfold World.rested
  by_cases hleft : left = 0
  · simp [hleft]
  · simp only [ne_eq, hleft, not_false_eq_true, if_true, if_false]
    rw [Task.perform_bind, Task.perform_sleep, hworld.sleep]
    rfl

/-- An attempt ends the acquisition with the measurement of its reply, or with a failure that calls
for no other attempt; otherwise the attempts go on after a pause. -/
theorem Config.perform_attempts (hworld : world.Attends) (config : Config) (last : Option Failure)
    (number left : Nat) (state after : σ) (reply : Reply)
    (hreply : world (.query config.server config.timeoutMs) (world.debugged (config.attemptLine number) state) =
      (some reply, after)) :
    Task.perform world (config.attempts last number (left + 1)) state =
      match reply.measurement with
      | .ok m => (some (.ok m), after)
      | .error failure =>
        if failure.isRetryable then
          Task.perform world (config.attempts (some failure) (number + 1) left)
            (world.rested left (world.debugged (attemptFailedLine number failure) after))
        else (some (.error failure), after) := by
  rw [config.attempts_succ, Task.perform_bind, hworld.perform_debug]
  simp only []
  rw [Task.perform_bind, Task.perform_attempt, config.perform_measure _ after reply hreply]
  cases reply.measurement with
  | ok m => rfl
  | error failure =>
    by_cases hretry : failure.isRetryable
    · simp only [Option.map_some, hretry, if_true]
      rw [Task.perform_bind, hworld.perform_debug]
      exact hworld.perform_pause left _ _
    · simp [hretry]

/-- A measurement is one query. -/
theorem Config.actions_measure (config : Config) (state : σ) :
    Task.actions world config.measure state = [.query config.server config.timeoutMs] := by
  unfold Config.measure
  rw [Task.actions_bind, Task.actions_query]
  match Task.perform world (Task.query config.server config.timeoutMs) state with
  | (none, after) => rfl
  | (some (.error failure), after) => rfl
  | (some (.ok exchange), after) => simp

/-- In a world that attends, the pause before another attempt is one action, if one is left. -/
theorem World.Attends.actions_pause (hworld : world.Attends) (left : Nat) (rest : Task Measurement) (state : σ) :
    Task.actions world (do
      if left ≠ 0 then Task.sleep retryDelay
      rest) state =
      (if left ≠ 0 then [.sleep retryDelay] else []) ++ Task.actions world rest (world.rested left state) := by
  unfold World.rested
  by_cases hleft : left = 0
  · simp [hleft]
  · simp only [ne_eq, hleft, not_false_eq_true, if_true, if_false]
    rw [Task.actions_bind, Task.actions_sleep, Task.perform_sleep, hworld.sleep]
    rfl

/-- An attempt writes a debug message and asks for a reply; if that calls for another attempt, it writes
one more message, and the attempts go on after a pause. -/
theorem Config.actions_attempts (hworld : world.Attends) (config : Config) (last : Option Failure)
    (number left : Nat) (state after : σ) (reply : Reply)
    (hreply : world (.query config.server config.timeoutMs) (world.debugged (config.attemptLine number) state) =
      (some reply, after)) :
    Task.actions world (config.attempts last number (left + 1)) state =
      .log .debug (config.attemptLine number) :: .query config.server config.timeoutMs ::
        match reply.measurement with
        | .ok _ => []
        | .error failure =>
          if failure.isRetryable then
            .log .debug (attemptFailedLine number failure) ::
              ((if left ≠ 0 then [.sleep retryDelay] else []) ++
                Task.actions world (config.attempts (some failure) (number + 1) left)
                  (world.rested left (world.debugged (attemptFailedLine number failure) after)))
          else [] := by
  rw [config.attempts_succ, Task.actions_bind, hworld.perform_debug, Task.actions_log]
  simp only [List.singleton_append]
  rw [Task.actions_bind, Task.actions_attempt, config.actions_measure, Task.perform_attempt,
    config.perform_measure _ after reply hreply]
  simp only [Option.map_some, List.singleton_append]
  cases reply.measurement with
  | ok m => rfl
  | error failure =>
    by_cases hretry : failure.isRetryable
    · simp only [hretry, if_true]
      rw [Task.actions_bind, hworld.perform_debug, Task.actions_log]
      simp only [List.singleton_append]
      rw [hworld.actions_pause left]
    · simp [hretry]

/-- A measurement that is got is that of a reply. -/
theorem Config.measurement_of_attempts (hworld : world.Attends) (config : Config) {last : Option Failure}
    {number left : Nat} {state after : σ} {m : Measurement}
    (h : Task.perform world (config.attempts last number left) state = (some (.ok m), after)) :
    ∃ reply : Reply, reply.measurement = .ok m := by
  induction left generalizing last number state with
  | zero => cases h
  | succ left ih =>
    obtain ⟨reply, hreply⟩ := Option.isSome_iff_exists.mp
      (hworld.query config.server config.timeoutMs (world.debugged (config.attemptLine number) state))
    rw [config.perform_attempts hworld last number left state _ reply (Prod.ext hreply rfl)] at h
    cases hmeasured : Reply.measurement reply with
    | ok m' =>
      simp only [hmeasured, Prod.mk.injEq, Option.some.injEq, Except.ok.injEq] at h
      exact ⟨reply, h.1 ▸ hmeasured⟩
    | error failure =>
      by_cases hretry : failure.isRetryable
      · simp only [hmeasured, hretry, if_true] at h
        exact ih h
      · simp [hmeasured, hretry] at h

end Sntp
