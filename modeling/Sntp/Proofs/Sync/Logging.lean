import Sntp.Proofs.Sync.Acquisition
import Sntp.Proofs.Sync.Messages

/-!
# A synchronization logs printable messages

A run hears texts from outside: the addresses that answer and the messages of failures. As long as these are printable
(`Action.IsAnsweredPlainly`), each step of a synchronization logs printable messages (`Task.LogsPrintably`), and hands on
what the next one needs: the acquisition a measurement with a printable address and reference, the decision a diagnosis
that can be told. So the whole run logs printable messages (`logsPrintably_synchronize`).
-/

set_option autoImplicit false

namespace Sntp

open Number

/-- Whether what a reply brings beside the bytes of a response is printable: the address, or the message of a failure. -/
def Reply.IsPlain : Reply → Prop
  | .ok exchange => IsPrintable exchange.address
  | .error failure => IsPrintable failure.message

/-- Whether the texts that an answer brings are printable. Of the log no more is asked than that the message of a fault is,
should it fail with one. -/
def Action.IsAnsweredPlainly : (action : Action) → action.Answer → Prop
  | .log _ _, answer => Task.Meets (fun _ => True) Failure.IsTellable answer
  | .query _ _, answer => Reply.IsPlain answer
  | .sleep _, _ => True
  | .isPrivileged, _ => True
  | .setClock _, answer => Task.Meets (fun _ => True) (fun failure => IsPrintable failure.message) answer

/-- Whether the message that an action logs is printable, if it logs one. -/
def Action.LogsPrintably : Action → Prop
  | .log _ message => IsPrintable message
  | _ => True

/-- Whether a task logs nothing but printable messages and comes to a value that fits, as long as the answers that it gets
bring printable texts. -/
abbrev Task.LogsPrintably {α : Type} (fits : α → Prop) (task : Task α) : Prop :=
  Task.Assures Action.IsAnsweredPlainly Action.LogsPrintably fits Failure.IsTellable task

section Runs

variable {config : Config} {method : String}

/-- A printable message is logged printably. -/
theorem logsPrintably_log (level : Level) {message : String} (h : IsPrintable message) :
    (Task.log level message).LogsPrintably fun _ => True := Task.assures_log h fun _ hanswer => hanswer

/-- An exchange with a printable address gives a plain measurement, or fails with something printable. -/
theorem Exchange.meets_measurement {exchange : Exchange} (h : IsPrintable exchange.address) :
    Task.Meets Measurement.IsPlain Failure.IsTellable exchange.measurement := by
  unfold measurement
  cases hread : Response.ofBytes exchange.response with
  | error fault => exact Failure.isTellable_fault fault (Response.isPlain_of_ofBytes hread)
  | ok response => exact ⟨h, Response.isPrintable_reference hread⟩

/-- A measurement logs nothing, and is plain. -/
theorem logsPrintably_measure (config : Config) : config.measure.LogsPrintably Measurement.IsPlain := by
  have hquery : (Task.query config.server config.timeoutMs).LogsPrintably fun exchange => IsPrintable exchange.address := by
    apply Task.assures_query trivial
    intro answer hanswer
    cases answer with
    | ok exchange => exact hanswer
    | error failure => exact Failure.isTellable_of_isPrintable hanswer
  apply hquery.bind
  intro exchange haddress
  exact Task.assures_ofExcept (Exchange.meets_measurement haddress)

/-- The attempts tell of the server, of numbers and of faults. -/
theorem logsPrintably_attempts (hserver : IsPrintable config.server) (last : Option Failure) (number left : Nat) :
    (config.attempts last number left).LogsPrintably Measurement.IsPlain := by
  have hlabel (number : Nat) : IsPrintable (attemptLabel number) :=
    .append (.append (isPrintable_of_all rfl) (isPrintable_integerText number)) (isPrintable_of_all rfl)
  induction left generalizing last number with
  | zero =>
    -- The message is the same whatever the last fault was.
    have hmessage : IsPrintable ((Fault.retriesExhausted config.server config.retries).message none) :=
      Fault.isPrintable_message (.retriesExhausted config.server config.retries) hserver (by simp)
    refine Task.assures_throw (Failure.isTellable_of_isPrintable ?_)
    cases last with
    | none => exact hmessage
    | some last => exact hmessage
  | succ left ih =>
    rw [config.attempts_succ]
    have hline : IsPrintable (config.attemptLine number) :=
      .append (.append (.append (hlabel number) (isPrintable_of_all rfl)) hserver) (isPrintable_of_all rfl)
    apply (logsPrintably_log .debug hline).bind
    intro _ _
    apply (logsPrintably_measure config).attempt.bind
    intro result hresult
    cases result with
    | ok m => exact Task.assures_pure hresult
    | error failure =>
      have htellable : failure.IsTellable := hresult
      by_cases hretry : failure.isRetryable
      · have hfailed : IsPrintable (attemptFailedLine number failure) :=
          .append (.append (hlabel number) (isPrintable_of_all rfl)) (htellable.isPrintable_summary hretry)
        simp only [hretry, if_true]
        apply (logsPrintably_log .debug hfailed).bind
        intro _ _
        by_cases hleft : left = 0
        · simpa [hleft] using ih (some failure) (number + 1)
        · simp only [ne_eq, hleft, not_false_eq_true, if_true]
          exact (Task.assures_sleep trivial).bind fun _ _ => ih (some failure) (number + 1)
      · simpa [hretry] using Task.assures_throw htellable

/-- Lines that are printable are written printably. -/
theorem logsPrintably_writeLines {lines : List (Except Failure String)}
    (h : ∀ line ∈ lines, Task.Meets IsPrintable Failure.IsTellable line) :
    (writeLines lines).LogsPrintably fun _ => True := by
  induction lines with
  | nil => exact Task.assures_pure trivial
  | cons line rest ih =>
    have hline := h line List.mem_cons_self
    apply (Task.assures_ofExcept hline).bind
    intro text htext
    apply (logsPrintably_log .debug htext).bind
    intro _ _
    exact ih fun other hmem => h other (List.mem_cons_of_mem line hmem)

/-- The line for the system log is printable. -/
theorem Measurement.IsPlain.isPrintable_systemLogLine {m : Measurement} (h : m.IsPlain)
    (hserver : IsPrintable config.server) (estimate : Estimate) : IsPrintable (m.systemLogLine config estimate) := by
  have hanswered : IsPrintable ("NTP server=" ++ config.server ++ " addr=" ++ m.exchange.address ++ " offset_ms=") :=
    .append (.append (.append (.append (isPrintable_of_all rfl) hserver) (isPrintable_of_all rfl)) h.address)
      (isPrintable_of_all rfl)
  exact .append (.append (.append hanswered (isPrintable_text _)) (isPrintable_of_all rfl)) (isPrintable_text _)

/-- A plain measurement is reported printably. -/
theorem logsPrintably_report (hserver : IsPrintable config.server) {m : Measurement} (hm : m.IsPlain) (estimate : Estimate) :
    (config.report m estimate).LogsPrintably fun _ => True := by
  apply (logsPrintably_writeLines (hm.meets_lines hserver estimate)).bind
  intro _ _
  by_cases hlog : config.useSystemLog
  · simpa [hlog] using logsPrintably_log .info (hm.isPrintable_systemLogLine hserver estimate)
  · simpa [hlog] using Task.assures_pure trivial

/-- Deciding logs nothing, and the decision can be told printably. -/
theorem logsPrintably_make (hmethod : IsPrintable method) (sample : Sample) (estimate : Estimate) (testOnly : Bool) :
    (Decision.make sample estimate testOnly method).LogsPrintably Decision.IsTellable := by
  have hassess := meets_assess sample estimate
  unfold Decision.make
  cases hverdict : assess sample estimate with
  | error failure =>
    rw [hverdict] at hassess
    exact Task.assures_throw hassess
  | ok verdict =>
    rw [hverdict] at hassess
    cases verdict with
    | inl decision => exact Task.assures_pure (hassess decision rfl)
    | inr timeMs =>
      cases testOnly with
      | true => exact Task.assures_pure trivial
      | false =>
        simp only [Bool.false_eq_true, if_false]
        apply (Task.assures_isPrivileged trivial).bind
        intro privileged _
        cases privileged with
        | false => exact Task.assures_pure trivial
        | true =>
          apply (Task.assures_trySetClock trivial).bind
          intro result hresult
          exact Task.assures_pure (Decision.isTellable_afterSetting hmethod timeMs hresult)

/-- A decision that can be told printably is announced printably. -/
theorem logsPrintably_announce (hmethod : IsPrintable method) {decision : Decision} (h : decision.IsTellable) :
    (decision.announce method).LogsPrintably fun _ => True := by
  apply (Task.assures_ofExcept (h.meets_announcement hmethod)).bind
  intro told htold
  apply (logsPrintably_log told.1 htold).bind
  intro _ _
  exact Task.assures_pure trivial

/-- Concluding on a plain measurement logs printably. -/
theorem logsPrintably_conclude (hserver : IsPrintable config.server) (hmethod : IsPrintable method) {m : Measurement}
    (hm : m.IsPlain) (estimate : Estimate) : (config.conclude method m estimate).LogsPrintably fun _ => True := by
  apply (logsPrintably_report hserver hm estimate).bind
  intro _ _
  apply (logsPrintably_make hmethod m.sample estimate config.testOnly).bind
  intro decision hdecision
  exact logsPrintably_announce hmethod hdecision

/-- A failure that can be told printably ends a run printably. -/
theorem logsPrintably_ofFailure (m : Option Measurement) (estimate : Option Estimate) {failure : Failure}
    (h : failure.IsTellable) : (Outcome.ofFailure m estimate failure).LogsPrintably fun _ => True := by
  unfold Outcome.ofFailure
  cases hdiagnosis : failure.diagnosis? with
  | none => exact Task.assures_throw h
  | some diagnosis =>
    apply (logsPrintably_log .error (h diagnosis hdiagnosis)).bind
    intro _ _
    exact Task.assures_pure trivial

/-- A run goes on printably after the acquisition. -/
theorem logsPrintably_proceed (hserver : IsPrintable config.server) (hmethod : IsPrintable method)
    {result : Except Failure Measurement} (h : Task.Meets Measurement.IsPlain Failure.IsTellable result) :
    (config.proceed method result).LogsPrintably fun _ => True := by
  unfold Config.proceed
  cases result with
  | error failure => exact logsPrintably_ofFailure none none h
  | ok m =>
    have hm : m.IsPlain := h
    simp only []
    cases hestimated : m.sample.estimate with
    | error fault => exact logsPrintably_ofFailure (some m) none (Sample.isTellable_of_estimate hestimated)
    | ok estimate =>
      apply (logsPrintably_conclude hserver hmethod hm estimate).attempt.bind
      intro conclusion hconclusion
      cases conclusion with
      | error failure => exact logsPrintably_ofFailure (some m) (some estimate) hconclusion
      | ok decision => exact Task.assures_pure trivial

/-- The line about the settings is printable. -/
theorem isPrintable_settingsLine (config : Config) : IsPrintable config.settingsLine := by
  have hswitch : IsPrintable (if config.useSystemLog then "on" else "off") := by
    split <;> exact isPrintable_of_all rfl
  have htimeout : IsPrintable ("Timeout: " ++ integerText config.timeoutMs ++ " ms, Retries: ") :=
    .append (.append (isPrintable_of_all rfl) (isPrintable_integerText _)) (isPrintable_of_all rfl)
  exact .append (.append (.append htimeout (isPrintable_integerText _)) (isPrintable_of_all rfl)) hswitch

/-- A synchronization with a printable server, by a method with a printable name, logs nothing but printable messages, as
long as the answers that it gets bring printable texts; the bytes of the responses are not among these. -/
theorem logsPrintably_synchronize (hserver : IsPrintable config.server) (hmethod : IsPrintable method) :
    (config.synchronize method).LogsPrintably fun _ => True := by
  have hfirst : IsPrintable ("Using server: " ++ config.server) := .append (isPrintable_of_all rfl) hserver
  have hsecond := isPrintable_settingsLine config
  have hacquire : config.acquire.LogsPrintably Measurement.IsPlain :=
    logsPrintably_attempts hserver none 1 config.retries.toNat
  apply (logsPrintably_log .debug hfirst).bind
  intro _ _
  apply (logsPrintably_log .debug hsecond).bind
  intro _ _
  apply hacquire.attempt.bind
  intro result hresult
  exact logsPrintably_proceed hserver hmethod hresult

end Runs

end Sntp
