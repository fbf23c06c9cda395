import Sntp.Proofs.Assurance
import Sntp.Proofs.Clock.Estimate
import Sntp.Proofs.Packet.Reading
import Sntp.Proofs.Text.Printable
import Sntp.Sync.Synchronize

/-!
# The messages of a synchronization are printable

A message is put together from words of the program, from numbers and from texts that it was given. Of the bytes of a
response nothing gets into one but numbers and the reference, of whose code only what is printable is kept
(`Response.isPlain_of_ofBytes`, `Response.isPrintable_reference`). So the messages of faults are printable if the texts that
these were given are (`Fault.isPrintable_message`), the lines about a measurement if the server's name and address are
(`Measurement.IsPlain.meets_lines`), and the announcement of a decision if the name of the clock setter is, and a failure
that it tells of (`Decision.isTellable_afterSetting`, `Decision.IsTellable.meets_announcement`).
-/

set_option autoImplicit false

namespace Sntp

open Text Number

/-- Whether the texts that a fault was given are printable. -/
def Fault.IsPlain : Fault → Prop
  | usage message => IsPrintable message
  | unresolved host => IsPrintable host
  | unsent address => IsPrintable address
  | noResponse address _ => IsPrintable address
  | kissOfDeath code => IsPrintable code
  | retriesExhausted server _ => IsPrintable server
  | overflow operation _ _ => IsPrintable operation
  | clockNotSet method => IsPrintable method
  | _ => True

/-- The words about a cause are printable if its summary is. -/
theorem Fault.isPrintable_causeSuffix {cause : Option String} (h : ∀ summary ∈ cause, IsPrintable summary) :
    IsPrintable (causeSuffix cause) := by
  cases cause with
  | none => exact isPrintable_of_all rfl
  | some summary => exact .append (isPrintable_of_all rfl) (h summary rfl)

/-- The message of a fault is printable if the texts that it was given are. -/
theorem Fault.isPrintable_message (fault : Fault) (h : fault.IsPlain) {cause : Option String}
    (hcause : ∀ summary ∈ cause, IsPrintable summary) : IsPrintable (fault.message cause) := by
  have hsuffix := isPrintable_causeSuffix hcause
  cases fault with
  | usage message => exact h
  | unresolved host => exact .append (.append (isPrintable_of_all rfl) h) hsuffix
  | unsent address => exact .append (.append (isPrintable_of_all rfl) h) hsuffix
  | noResponse address timeoutMs =>
    have hwithin : IsPrintable ("No response from " ++ address ++ " within ") :=
      .append (.append (isPrintable_of_all rfl) h) (isPrintable_of_all rfl)
    exact .append (.append hwithin (isPrintable_integerText timeoutMs)) (isPrintable_of_all rfl)
  | shortPacket length =>
    exact .append (.append (isPrintable_of_all rfl) (isPrintable_integerText length)) (isPrintable_of_all rfl)
  | wrongMode mode => exact .append (isPrintable_of_all rfl) (isPrintable_integerText mode)
  | kissOfDeath code =>
    have hcode : IsPrintable (if code = "" then "none" else code) := by
      split
      · exact isPrintable_of_all rfl
      · exact h
    exact .append (.append (isPrintable_of_all rfl) hcode) (isPrintable_of_all rfl)
  | wrongVersion version => exact .append (isPrintable_of_all rfl) (isPrintable_integerText version)
  | unsynchronized => exact isPrintable_of_all rfl
  | earlyTimestamp seconds => exact .append (isPrintable_of_all rfl) (isPrintable_integerText seconds)
  | retriesExhausted server attempts =>
    have hserver : IsPrintable ("Failed to contact NTP server " ++ server ++ " after ") :=
      .append (.append (isPrintable_of_all rfl) h) (isPrintable_of_all rfl)
    have hplural : IsPrintable (if attempts = 1 then " attempt" else " attempts") := by
      split <;> exact isPrintable_of_all rfl
    exact .append (.append hserver (isPrintable_integerText attempts)) hplural
  | overflow operation left right =>
    have hleft : IsPrintable ("Arithmetic overflow: " ++ left.text ++ " ") :=
      .append (.append (isPrintable_of_all rfl) (isPrintable_text left)) (isPrintable_of_all rfl)
    exact .append (.append (.append hleft h) (isPrintable_of_all rfl)) (isPrintable_text right)
  | roundTripOutOfRange rttMs =>
    exact .append (.append (isPrintable_of_all rfl) (isPrintable_text rttMs)) (isPrintable_of_all rfl)
  | implausibleYear year => exact .append (isPrintable_of_all rfl) (isPrintable_integerText year)
  | privilegeDenied => exact isPrintable_of_all rfl
  | clockNotSet method => exact .append (.append (isPrintable_of_all rfl) h) hsuffix

namespace Failure

/-- Whether the message of a failure is printable if it is ever told: only faults are. -/
def IsTellable (failure : Failure) : Prop :=
  ∀ diagnosis, failure.diagnosis? = some diagnosis → IsPrintable diagnosis.message

variable {failure : Failure}

/-- A failure that is told is told in its own words. -/
theorem message_of_diagnosis? {diagnosis : Diagnosis} (h : failure.diagnosis? = some diagnosis) :
    diagnosis.message = failure.message := by
  cases failure with
  | fault f =>
    obtain rfl := Option.some.inj h
    rfl
  | faultFrom f cause =>
    obtain rfl := Option.some.inj h
    rfl
  | system kind message => cases h
  | datum value => cases h

/-- A failure with a printable message can be told printably. -/
theorem isTellable_of_isPrintable (h : IsPrintable failure.message) : failure.IsTellable := by
  intro diagnosis hdiagnosis
  rw [message_of_diagnosis? hdiagnosis]
  exact h

/-- A plain fault can be told printably. -/
theorem isTellable_fault (fault : Fault) (h : fault.IsPlain) : (Failure.fault fault).IsTellable :=
  isTellable_of_isPrintable (fault.isPrintable_message h (by simp))

/-- A failure that calls for another attempt is a fault, which is told. -/
theorem IsTellable.isPrintable_summary (h : failure.IsTellable) (hretry : failure.isRetryable = true) :
    IsPrintable failure.summary := by
  have hmessage : ∀ diagnosis, failure.diagnosis? = some diagnosis → IsPrintable failure.summary := by
    intro diagnosis hdiagnosis
    have hprintable := h diagnosis hdiagnosis
    rw [message_of_diagnosis? hdiagnosis] at hprintable
    exact isPrintable_withoutLabel hprintable
  cases failure with
  | fault f => exact hmessage _ rfl
  | faultFrom f cause => exact hmessage _ rfl
  | system kind message => cases hretry
  | datum value => cases hretry

end Failure

section Responses

/-- A code that bytes show is printable. -/
theorem Packet.arePrintable_shownCode (bytes : Bytes) : ArePrintable (Packet.shownCode bytes) := by
  intro c hmem
  have hkept := (List.dropWhile_suffix _).subset ((List.rdropWhile_prefix _ _).subset hmem)
  simpa using (List.mem_filter.mp hkept).2

/-- The reference of a response is printable whatever its bytes are: of a code only what is printable is kept, and an
address is written in digits. -/
theorem Response.isPrintable_reference {packet : Bytes} {response : Response} (h : Response.ofBytes packet = .ok response) :
    IsPrintable response.reference := by
  obtain ⟨hdemands, rfl⟩ := (Response.ofBytes_eq_ok_iff packet response).mp h
  obtain ⟨hlength, -⟩ := (Response.forall_demands_iff packet).mp hdemands
  show IsPrintable (Packet.reference packet)
  unfold Packet.reference
  rw [isPrintable_ofList]
  split
  · rw [Packet.referenceCode_eq_shownCode (Nat.le_trans (by decide) hlength)]
    exact Packet.arePrintable_shownCode _
  · simp [Packet.referenceAddress]

/-- The fault for which a response is refused was given no text but such a code. -/
theorem Response.isPlain_of_ofBytes {packet : Bytes} {fault : Fault} (h : Response.ofBytes packet = .error fault) :
    fault.IsPlain := by
  have hcode : IsPrintable (String.ofList (Packet.shownCode (Packet.bytesFrom packet 12 4))) :=
    isPrintable_ofList.mpr (Packet.arePrintable_shownCode _)
  obtain ⟨demand, hmem, rfl⟩ := Response.exists_demand_of_error h
  simp only [Packet.demands, List.mem_cons, List.not_mem_nil, or_false] at hmem
  rcases hmem with rfl | rfl | rfl | rfl | rfl | rfl
  case inr.inr.inl => exact hcode
  all_goals trivial

/-- A line break and the start of an escape sequence are dropped from a code. -/
example : Packet.defect? ([0x24, 0, 0, 0] ++ List.replicate 8 0 ++ [0x0A, 0x1B, 0x5B, 0x41] ++ List.replicate 32 0) =
    some (.kissOfDeath "[A") := by decide +kernel

end Responses

/-- What is given to a report from outside: the address that answered, and a reference. -/
structure Measurement.IsPlain (m : Measurement) : Prop where
  address : IsPrintable m.exchange.address
  reference : IsPrintable m.response.reference

/-- Whether the message of a decision is printable, if it has one of its own. -/
def Decision.IsTellable : Decision → Prop
  | .reject diagnosis => IsPrintable diagnosis.message
  | _ => True

section Lines

/-- An invalid time can be told printably. -/
theorem isTellable_invalidTime : Failure.invalidTime.IsTellable := by
  rintro _ ⟨⟩

/-- A time is told in printable text, or fails to be told with some. -/
theorem meets_isoTime (ms : Number) : Task.Meets IsPrintable Failure.IsTellable (isoTime ms) := by
  unfold isoTime isoTime?
  cases Moment.ofNumber? ms with
  | none => exact isTellable_invalidTime
  | some moment => exact isPrintable_iso moment

/-- The lines about a measurement are printable, as far as they can be written. -/
theorem Measurement.IsPlain.meets_lines {m : Measurement} (h : m.IsPlain) {config : Config}
    (hserver : IsPrintable config.server) (estimate : Estimate) :
    ∀ line ∈ m.lines config estimate, Task.Meets IsPrintable Failure.IsTellable line := by
  have hword {text : Chars} (hall : text.all Packet.isPrintable = true) : IsPrintable (String.ofList text) :=
    isPrintable_of_all hall
  have hnumber := isPrintable_integerText
  have hfixed (value : Nat) : IsPrintable (fixedPointText value) := isPrintable_fixedThree _
  have hreference : IsPrintable (if m.response.reference = "" then "" else ", reference " ++ m.response.reference) := by
    split
    · exact hword rfl
    · exact .append (hword rfl) h.reference
  intro line hmem
  simp only [lines, List.mem_cons, List.not_mem_nil, or_false] at hmem
  rcases hmem with rfl | rfl | rfl | rfl | rfl | rfl | rfl | rfl | rfl | rfl
  · have hnamed : IsPrintable ("Server: " ++ config.server ++ " (" ++ m.exchange.address ++ "), stratum ") :=
      .append (.append (.append (.append (hword rfl) hserver) (hword rfl)) h.address) (hword rfl)
    exact .append (.append (.append (.append hnamed (hnumber _)) (hword rfl)) (hnumber _)) hreference
  · have hmode : IsPrintable ("Leap indicator " ++ integerText m.response.leap ++ ", mode " ++
        integerText m.response.mode ++ ", poll 2^") :=
      .append (.append (.append (.append (hword rfl) (hnumber _)) (hword rfl)) (hnumber _)) (hword rfl)
    exact .append (.append (.append (.append hmode (hnumber _)) (hword rfl)) (hnumber _)) (hword rfl)
  · exact .append (.append (.append (hword rfl) (hfixed _)) (hword rfl)) (hfixed _)
  · exact .append (.append (.append (.append (hword rfl) (hnumber _)) (hword rfl)) (hnumber _)) (hword rfl)
  · exact (meets_isoTime _).map fun _ htime => .append (hword rfl) htime
  · exact (meets_isoTime _).map fun _ htime => .append (hword rfl) htime
  · exact .append (hword rfl) (isPrintable_text _)
  · exact .append (hword rfl) (isPrintable_text _)
  · exact .append (hword rfl) (isPrintable_text _)
  · exact .append (hword rfl) (isPrintable_text _)

end Lines

section Decisions

/-- An overflow can be told printably. -/
theorem isTellable_overflow {operation : String} (h : IsPrintable operation) (left right : Number) :
    (Failure.fault (.overflow operation left right)).IsTellable :=
  Failure.isTellable_fault (.overflow operation left right) h

/-- An estimate that cannot be formed fails with the sign of an operation. -/
theorem Sample.isTellable_of_estimate {sample : Sample} {fault : Fault} (h : sample.estimate = .error fault) :
    (Failure.fault fault).IsTellable := by
  obtain ⟨operation, left, right, hfirst, rfl⟩ := (sample.estimate_eq_error_iff fault).mp h
  cases hfirst with
  | sum => exact isTellable_overflow (isPrintable_of_all rfl) _ _
  | offset => exact isTellable_overflow (isPrintable_of_all rfl) _ _
  | trip => exact isTellable_overflow (isPrintable_of_all rfl) _ _

/-- The message about a plain fault without a cause is printable. -/
theorem Diagnosis.isPrintable_message (fault : Fault) (h : fault.IsPlain) : IsPrintable (Diagnosis.mk fault none).message :=
  fault.isPrintable_message h (by simp)

/-- What the gates come to tells of numbers alone. -/
theorem meets_assess (sample : Sample) (estimate : Estimate) :
    Task.Meets (fun verdict => ∀ decision, verdict = .inl decision → decision.IsTellable) Failure.IsTellable
      (assess sample estimate) := by
  unfold assess
  split
  · rintro _ ⟨⟩
    exact Diagnosis.isPrintable_message (.roundTripOutOfRange _) trivial
  split
  · rintro _ ⟨⟩
    trivial
  unfold utcYear
  cases utcYear? sample.remoteMs with
  | none => rintro _ ⟨⟩
  | some year =>
    simp only []
    split
    · cases hcorrected : correctedTime sample.remoteMs estimate.rttMs with
      | error fault =>
        obtain rfl := checked_eq_error hcorrected
        exact isTellable_overflow (isPrintable_of_all rfl) _ _
      | ok timeMs => rintro _ ⟨⟩
    · rintro _ ⟨⟩
      exact Diagnosis.isPrintable_message (.implausibleYear year) trivial

/-- A clock setter's failure is told in its own words, or quoted in those of the program. -/
theorem Decision.isTellable_afterSetting {method : String} (hmethod : IsPrintable method) (timeMs : Int)
    {result : Except Failure Unit} (h : Task.Meets (fun _ => True) (fun failure => IsPrintable failure.message) result) :
    (Decision.afterSetting method timeMs result).IsTellable := by
  cases result with
  | ok done => trivial
  | error failure =>
    simp only [afterSetting]
    split
    case h_1 own cause hdiagnosis =>
      show IsPrintable (Diagnosis.message _)
      rw [Failure.message_of_diagnosis? hdiagnosis]
      exact h
    case h_2 =>
      show IsPrintable (Fault.message _ _)
      refine Fault.isPrintable_message (.clockNotSet method) hmethod fun summary hsummary => ?_
      split at hsummary
      · cases hsummary
      · obtain rfl := Option.some.inj hsummary
        exact isPrintable_withoutLabel h

/-- The announcement of a decision that can be told is printable. -/
theorem Decision.IsTellable.meets_announcement {decision : Decision} (h : decision.IsTellable) {method : String}
    (hmethod : IsPrintable method) :
    Task.Meets (fun told => IsPrintable told.2) Failure.IsTellable (decision.announcement method) := by
  cases decision with
  | skip offsetMs => exact .append (.append (isPrintable_of_all rfl) (isPrintable_text offsetMs)) (isPrintable_of_all rfl)
  | reject diagnosis => exact h
  | testOnly timeMs => exact (meets_isoTime timeMs).map fun _ htime => .append (isPrintable_of_all rfl) htime
  | deny timeMs => exact Diagnosis.isPrintable_message .privilegeDenied trivial
  | apply timeMs =>
    have hset : IsPrintable ("System time set using " ++ method ++ " (") :=
      .append (.append (isPrintable_of_all rfl) hmethod) (isPrintable_of_all rfl)
    exact (meets_isoTime timeMs).map fun _ htime => .append (.append hset htime) (isPrintable_of_all rfl)

end Decisions

end Sntp
