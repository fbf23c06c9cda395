import Sntp.Proofs.Scene.Agenda
import Sntp.Simulation.Exchange

/-!
# What ends an inquiry

Datagrams, errors of the socket, the report on sending and the end of the time allowed race for the end of
an inquiry. The first of them that is decisive (`Inquiry.IsDecisive`) ends it, in the way that its kind
calls for (`Inquiry.Settles`); what is not decisive, and what comes later, makes no difference
(`play_first_decisive`).

Which one is first shows in the script alone (`ExchangeScript.FirstDecisive`): a request that is refused
is, and otherwise the occurrence that is due first, where of those due at one time the one counts that was
scheduled first. What comes to the socket is scheduled first of all, then the end of the time allowed, and
then the report on sending.
-/

set_option autoImplicit false

namespace Sntp

namespace Inquiry

/-- Whether an occurrence can end an inquiry: a datagram does only if it comes from the address and the
port that were asked, and the report on sending only if it tells of a failure. -/
def IsDecisive (inquiry : Inquiry) : Occurrence → Prop
  | .datagram _ address port => address = inquiry.address ∧ port = inquiry.port
  | .socketError _ => True
  | .sent report => report ≠ none
  | .timeUp => True

/-- What a datagram and a report on sending tell decides whether they are decisive. -/
instance (inquiry : Inquiry) : DecidablePred inquiry.IsDecisive
  | .datagram _ address port => inferInstanceAs (Decidable (address = inquiry.address ∧ port = inquiry.port))
  | .socketError _ => .isTrue trivial
  | .sent report => inferInstanceAs (Decidable (report ≠ none))
  | .timeUp => .isTrue trivial

/-- How an occurrence ends an inquiry when the local clock shows a time. -/
inductive Settles (inquiry : Inquiry) (now : Number) : Occurrence → Except Failure Exchange → Prop
  | exchange {bytes : Bytes} (length_ge : 48 ≤ bytes.length) :
    inquiry.Settles now (.datagram bytes inquiry.address inquiry.port)
      (.ok { localSendMs := inquiry.sentMs, localRecvMs := now, response := bytes, address := inquiry.address })
  | short {bytes : Bytes} (length_lt : bytes.length < 48) :
    inquiry.Settles now (.datagram bytes inquiry.address inquiry.port) (.error (.fault (.shortPacket bytes.length)))
  | broken (failure : Failure) :
    inquiry.Settles now (.socketError failure) (.error (.faultFrom (.unsent inquiry.address) failure))
  | unsent (failure : Failure) :
    inquiry.Settles now (.sent (some failure)) (.error (.faultFrom (.unsent inquiry.address) failure))
  | silent : inquiry.Settles now .timeUp (.error (.fault (.noResponse inquiry.address inquiry.timeoutMs)))

section

variable {inquiry : Inquiry} {now : Number} {occurrence : Occurrence} {result : Except Failure Exchange}

/-- The answer to an occurrence is how it ends the inquiry. -/
theorem answer?_eq_some_iff : inquiry.answer? now occurrence = some result ↔ inquiry.Settles now occurrence result := by
  constructor
  · intro h
    cases occurrence with
    | datagram bytes address port =>
      simp only [answer?] at h
      by_cases hsender : address = inquiry.address ∧ port = inquiry.port
      · obtain ⟨rfl, rfl⟩ := hsender
        by_cases hlength : bytes.length < 48
        · have hshort : bytes.length < Packet.size := hlength
          simp only [and_self, if_true, hshort, Option.some.injEq] at h
          exact h ▸ .short hlength
        · have hlong : ¬ bytes.length < Packet.size := hlength
          simp only [and_self, if_true, hlong, if_false, Option.some.injEq] at h
          exact h ▸ .exchange (Nat.not_lt.mp hlength)
      · simp [hsender] at h
    | socketError failure => exact Option.some.inj h ▸ .broken failure
    | sent report =>
      cases report with
      | none => cases h
      | some failure => exact Option.some.inj h ▸ .unsent failure
    | timeUp => exact Option.some.inj h ▸ .silent
  · intro h
    cases h with
    | @exchange bytes hlength =>
      have hlong : ¬ bytes.length < Packet.size := Nat.not_lt.mpr hlength
      simp [answer?, hlong]
    | @short bytes hlength =>
      have hshort : bytes.length < Packet.size := hlength
      simp [answer?, hshort]
    | broken failure => rfl
    | unsent failure => rfl
    | silent => rfl

/-- An occurrence is decisive exactly if it ends the inquiry in some way. -/
theorem isDecisive_iff (now : Number) : inquiry.IsDecisive occurrence ↔ ∃ result, inquiry.Settles now occurrence result := by
  constructor
  · intro h
    cases occurrence with
    | datagram bytes address port =>
      obtain ⟨rfl, rfl⟩ := h
      rcases Nat.lt_or_ge bytes.length 48 with hlength | hlength
      · exact ⟨_, .short hlength⟩
      · exact ⟨_, .exchange hlength⟩
    | socketError failure => exact ⟨_, .broken failure⟩
    | sent report =>
      cases report with
      | none => exact absurd rfl h
      | some failure => exact ⟨_, .unsent failure⟩
    | timeUp => exact ⟨_, .silent⟩
  · rintro ⟨result, h⟩
    cases h with
    | exchange => exact ⟨rfl, rfl⟩
    | short => exact ⟨rfl, rfl⟩
    | broken failure => trivial
    | unsent failure => exact nofun
    | silent => trivial

/-- An inquiry is ended by the decisive occurrence that an agenda brings first. -/
theorem firstAnswer?_eq_some_iff (clock : LocalClock) (agenda : Agenda Occurrence) (time : Int) :
    inquiry.firstAnswer? clock agenda = some (time, result) ↔
      ∃ occurrence, agenda.find? (fun entry => inquiry.IsDecisive entry.2) = some (time, occurrence) ∧
        inquiry.Settles (clock.read time) occurrence result := by
  induction agenda with
  | nil => simp [firstAnswer?]
  | cons entry rest ih =>
    obtain ⟨due, occurrence⟩ := entry
    unfold firstAnswer?
    cases hanswer : inquiry.answer? (clock.read due) occurrence with
    | none =>
      have hidle : ¬ inquiry.IsDecisive occurrence := by
        rw [isDecisive_iff (clock.read due)]
        rintro ⟨result, h⟩
        rw [answer?_eq_some_iff.mpr h] at hanswer
        cases hanswer
      rw [List.find?_cons_of_neg (by simpa using hidle)]
      exact ih
    | some answer =>
      have hsettles := answer?_eq_some_iff.mp hanswer
      have hdecisive : inquiry.IsDecisive occurrence := (isDecisive_iff (clock.read due)).mpr ⟨answer, hsettles⟩
      rw [List.find?_cons_of_pos (by simpa using hdecisive)]
      constructor
      · rintro ⟨⟩
        exact ⟨occurrence, rfl, hsettles⟩
      · -- The occurrence found is this one, and it ends the inquiry in one way only.
        rintro ⟨_, ⟨⟩, h⟩
        rw [answer?_eq_some_iff.mpr h] at hanswer
        rw [Option.some.inj hanswer]

end

end Inquiry

namespace ExchangeScript

/-- What is scheduled in an exchange that starts at a time, each occurrence with the time at which it is
due: what comes to the socket, the end of the time allowed, and the report on sending if there is one. -/
def scheduled (script : ExchangeScript) (start timeoutMs : Int) : List (Int × Occurrence) :=
  script.events.map (fun entry => (start + entry.1, entry.2)) ++ (start + timeoutMs, .timeUp) ::
    match script.send with
    | .refused _ => []
    | .reported after failure => [(start + after, .sent failure)]

/-- Whether an occurrence, at a time, is the first decisive one. A refused request is, at once. Otherwise
it is the one that is due first, and scheduled first among those due at that time; what is due before the
start occurs at the start. -/
def FirstDecisive (script : ExchangeScript) (inquiry : Inquiry) (start time : Int) (occurrence : Occurrence) : Prop :=
  match script.send with
  | .refused failure => time = start ∧ occurrence = .sent (some failure)
  | .reported _ _ => ∃ due, time = max start due ∧
      Agenda.IsFirst inquiry.IsDecisive (script.scheduled start inquiry.timeoutMs) due occurrence

variable {script : ExchangeScript} {inquiry : Inquiry} {start : Int}

/-- The agenda is the schedule in the order of time, nothing of it being earlier than the start. -/
theorem agenda_eq (script : ExchangeScript) (start timeoutMs : Int) :
    script.agenda start timeoutMs =
      (Agenda.ofList (script.scheduled start timeoutMs)).map fun entry => (max start entry.1, entry.2) := rfl

/-- The end of the time allowed is always scheduled. -/
theorem timeUp_mem_scheduled (script : ExchangeScript) (start timeoutMs : Int) :
    (start + timeoutMs, Occurrence.timeUp) ∈ script.scheduled start timeoutMs := by
  unfold scheduled
  simp

/-- Something is always the first decisive occurrence, at the latest the end of the time allowed. -/
theorem exists_firstDecisive (script : ExchangeScript) (inquiry : Inquiry) (start : Int) :
    ∃ time occurrence, script.FirstDecisive inquiry start time occurrence := by
  unfold FirstDecisive
  cases script.send with
  | refused failure => exact ⟨start, .sent (some failure), rfl, rfl⟩
  | reported after report =>
    have hmem := (Agenda.mem_ofList _ _).mpr (script.timeUp_mem_scheduled start inquiry.timeoutMs)
    have hsome : ((Agenda.ofList (script.scheduled start inquiry.timeoutMs)).find?
        fun entry => inquiry.IsDecisive entry.2).isSome := by
      rw [List.find?_isSome]
      exact ⟨_, hmem, decide_eq_true trivial⟩
    obtain ⟨⟨due, occurrence⟩, hfind⟩ := Option.isSome_iff_exists.mp hsome
    exact ⟨max start due, occurrence, due, rfl, (Agenda.find?_ofList _ due occurrence).mp hfind⟩

/-- The first decisive occurrence is decisive. -/
theorem FirstDecisive.isDecisive {time : Int} {occurrence : Occurrence}
    (h : script.FirstDecisive inquiry start time occurrence) : inquiry.IsDecisive occurrence := by
  unfold FirstDecisive at h
  cases hsend : script.send with
  | refused failure =>
    rw [hsend] at h
    obtain ⟨-, rfl⟩ := h
    exact nofun
  | reported after report =>
    rw [hsend] at h
    obtain ⟨due, -, hfirst⟩ := h
    exact hfirst.1

/-- Nothing is decisive before the start. -/
theorem FirstDecisive.start_le {time : Int} {occurrence : Occurrence}
    (h : script.FirstDecisive inquiry start time occurrence) : start ≤ time := by
  unfold FirstDecisive at h
  cases hsend : script.send with
  | refused failure =>
    rw [hsend] at h
    exact Int.le_of_eq h.1.symm
  | reported after report =>
    rw [hsend] at h
    obtain ⟨due, rfl, -⟩ := h
    exact Int.le_max_left start due

/-- No inquiry takes longer than the time allowed. -/
theorem FirstDecisive.le_timeout {time : Int} {occurrence : Occurrence} (htimeout : 0 ≤ inquiry.timeoutMs)
    (h : script.FirstDecisive inquiry start time occurrence) : time ≤ start + inquiry.timeoutMs := by
  unfold FirstDecisive at h
  cases hsend : script.send with
  | refused failure =>
    rw [hsend] at h
    omega
  | reported after report =>
    rw [hsend] at h
    obtain ⟨due, rfl, hfirst⟩ := h
    have hdue : due ≤ start + inquiry.timeoutMs :=
      hfirst.le (script.timeUp_mem_scheduled start inquiry.timeoutMs) trivial
    exact Int.max_le.mpr ⟨by omega, hdue⟩

/-- The agenda of a request that left brings the first decisive occurrence, and ends the inquiry by it. -/
theorem firstAnswer?_agenda (clock : LocalClock) {after : Int} {report : Option Failure}
    (hsend : script.send = .reported after report) (time : Int) (result : Except Failure Exchange) :
    inquiry.firstAnswer? clock (script.agenda start inquiry.timeoutMs) = some (time, result) ↔
      ∃ occurrence, script.FirstDecisive inquiry start time occurrence ∧
        inquiry.Settles (clock.read time) occurrence result := by
  rw [Inquiry.firstAnswer?_eq_some_iff, agenda_eq]
  refine exists_congr fun occurrence => and_congr_left fun _ => ?_
  unfold FirstDecisive
  simp only [hsend]
  rw [List.find?_map, Option.map_eq_some_iff]
  constructor
  · rintro ⟨⟨due, other⟩, hfind, ⟨⟩⟩
    exact ⟨due, rfl, (Agenda.find?_ofList _ due other).mp hfind⟩
  · rintro ⟨due, rfl, hfirst⟩
    exact ⟨(due, occurrence), (Agenda.find?_ofList _ due occurrence).mpr hfirst, rfl⟩

/-- Every inquiry is ended by its first decisive occurrence in some way. -/
theorem exists_settles (script : ExchangeScript) (clock : LocalClock) (inquiry : Inquiry) (start : Int) :
    ∃ time occurrence result, script.FirstDecisive inquiry start time occurrence ∧
      inquiry.Settles (clock.read time) occurrence result := by
  obtain ⟨time, occurrence, hfirst⟩ := script.exists_firstDecisive inquiry start
  obtain ⟨result, hsettles⟩ := (Inquiry.isDecisive_iff (clock.read time)).mp hfirst.isDecisive
  exact ⟨time, occurrence, result, hfirst, hsettles⟩

/-- An inquiry comes to the end that its first decisive occurrence gives it. -/
theorem settle_eq_iff (clock : LocalClock) (time : Int) (result : Except Failure Exchange) :
    script.settle clock inquiry start = (time, result) ↔
      ∃ occurrence, script.FirstDecisive inquiry start time occurrence ∧
        inquiry.Settles (clock.read time) occurrence result := by
  unfold settle
  cases hsend : script.send with
  | refused failure =>
    unfold FirstDecisive
    simp only [hsend]
    constructor
    · rintro ⟨⟩
      exact ⟨_, ⟨rfl, rfl⟩, .unsent failure⟩
    · rintro ⟨_, ⟨rfl, rfl⟩, ⟨⟩⟩
      rfl
  | reported after report =>
    obtain ⟨first, occurrence, answer, hfirst, hsettles⟩ := script.exists_settles clock inquiry start
    have hanswer := (firstAnswer?_agenda clock hsend first answer).mpr ⟨occurrence, hfirst, hsettles⟩
    rw [← firstAnswer?_agenda clock hsend, hanswer]
    simp

/-- An inquiry does not end before it starts. -/
theorem le_settle (script : ExchangeScript) (clock : LocalClock) (inquiry : Inquiry) (start : Int) :
    start ≤ (script.settle clock inquiry start).1 := by
  obtain ⟨occurrence, hfirst, -⟩ := (settle_eq_iff clock _ _).mp (rfl : script.settle clock inquiry start = _)
  exact hfirst.start_le

/-- An exchange whose lookup succeeds ends with its first decisive occurrence, and its socket is closed then. -/
theorem play_of_firstDecisive {clock : LocalClock} {endpoint : Endpoint} {timeoutMs time : Int} {occurrence : Occurrence}
    {resolved : ResolvedAddress} {result : Except Failure Exchange} (hlookup : script.lookup = .ok resolved)
    (hfirst : script.FirstDecisive
      { address := resolved.address, port := endpoint.port, timeoutMs, sentMs := clock.read start } start time occurrence)
    (hsettles : Inquiry.Settles
      { address := resolved.address, port := endpoint.port, timeoutMs, sentMs := clock.read start }
      (clock.read time) occurrence result) :
    script.play clock start endpoint timeoutMs =
      { trace := [
          (start, .lookup endpoint.host),
          (start, .openSocket (resolved.family = 6)),
          (start, .send Packet.request endpoint.port resolved.address),
          (time, .closeSocket)]
        endTime := time
        result } := by
  have hsettle := (settle_eq_iff clock time result).mpr ⟨occurrence, hfirst, hsettles⟩
  unfold play
  simp only [hlookup, hsettle]

/-- An exchange whose lookup succeeds comes to what its first decisive occurrence calls for, and it does so
when that occurs. Nothing else matters: every exchange with the same address and the same first decisive
occurrence goes the same way, whatever else comes before that, with it or later. -/
theorem play_first_decisive (script : ExchangeScript) (clock : LocalClock) (start : Int) (server : String)
    (port : Number) (timeoutMs : Int) {resolved : ResolvedAddress} (hlookup : script.lookup = .ok resolved) :
    let endpoint := Endpoint.ofText server port
    let inquiry : Inquiry :=
      { address := resolved.address, port := endpoint.port, timeoutMs, sentMs := clock.read start }
    let run := script.play clock start endpoint timeoutMs
    ∃ time occurrence, script.FirstDecisive inquiry start time occurrence ∧
      inquiry.Settles (clock.read time) occurrence run.result ∧ run.endTime = time ∧
      ∀ other : ExchangeScript, other.lookup = script.lookup →
        other.FirstDecisive inquiry start time occurrence → other.play clock start endpoint timeoutMs = run := by
  intro endpoint inquiry run
  obtain ⟨time, occurrence, result, hfirst, hsettles⟩ := script.exists_settles clock inquiry start
  have hrun : run = _ := play_of_firstDecisive hlookup hfirst hsettles
  refine ⟨time, occurrence, hfirst, ?_, ?_, fun other hother hsame => ?_⟩
  · rw [hrun]
    exact hsettles
  · rw [hrun]
  · rw [hrun]
    exact play_of_firstDecisive (hother.trans hlookup) hsame hsettles

/-- An exchange in which a datagram from elsewhere comes first. When the time allowed runs out there come a
short datagram, a whole one and an error of the socket, and the request turns out not to have left. -/
def crowded : ExchangeScript where
  lookup := .ok ⟨"192.0.2.1", 4⟩
  events := [
    (10, .datagram Packet.request "203.0.113.9" (Number.ofInt 123)),
    (20, .datagram [0x24] "192.0.2.1" (Number.ofInt 123)),
    (20, .datagram Packet.request "192.0.2.1" (Number.ofInt 123)),
    (20, .socketError (.system .ordinary "reset"))]
  send := .reported 20 (some (.system .ordinary "unreachable"))

/-- There the short datagram decides. -/
theorem play_first_decisive_crowded :
    let clock : LocalClock := ⟨1749999990000, [(15, -3000)]⟩
    let endpoint := Endpoint.ofText "ntp.example:123" (Number.ofInt 124)
    let inquiry : Inquiry :=
      { address := "192.0.2.1", port := endpoint.port, timeoutMs := 20, sentMs := clock.read 0 }
    let run := crowded.play clock 0 endpoint 20
    run.result = .error (.fault (.shortPacket 1)) ∧
      ∃ occurrence, crowded.FirstDecisive inquiry 0 20 occurrence ∧
        inquiry.Settles (clock.read 20) occurrence run.result := by
  intro clock endpoint inquiry run
  have hrun : run.endTime = 20 ∧ run.result = .error (.fault (.shortPacket 1)) := by decide +kernel
  obtain ⟨time, occurrence, hfirst, hsettles, htime, -⟩ :=
    play_first_decisive crowded clock 0 "ntp.example:123" (Number.ofInt 124) 20 rfl
  obtain rfl := hrun.1.symm.trans htime
  exact ⟨hrun.2, occurrence, hfirst, hsettles⟩

end ExchangeScript

end Sntp
