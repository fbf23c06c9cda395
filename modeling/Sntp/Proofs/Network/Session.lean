import Sntp.Proofs.Network.Race

/-!
# The life of a socket

A session is a socket with the timer that limits the wait, and everything on the agenda of an exchange
happens to it, also what comes after its end. A session that is over stays as it is (`occur_of_isOver`,
`foldl_occur_of_isOver`), so that the first answer ends it for good (`foldl_occur`), and the whole session
comes to what is computed from that answer alone (`session_eq`).

An exchange thus always ends, within the time allowed, and its socket is closed once, as its last effect
(`play_ends`).
-/

set_option autoImplicit false

namespace Sntp

/-- A socket that was opened, with the timer that limits the wait for an answer. -/
structure Session where
  trace : Trace
  isOpen : Bool
  timerRuns : Bool
  /-- When and how the session ended. -/
  outcome : Option (Int × Except Failure Exchange)

namespace Session

/-- Ends a session: the timer is stopped and, if the session had not ended before, the socket closed. -/
def finish (session : Session) (time : Int) (result : Except Failure Exchange) : Session :=
  match session.outcome with
  | some _ => { session with timerRuns := false }
  | none =>
    { trace := session.trace ++ [(time, .closeSocket)]
      isOpen := false
      timerRuns := false
      outcome := some (time, result) }

/-- Whether an occurrence comes through to a session. A report on sending always does. -/
def hears (session : Session) : Occurrence → Bool
  | .datagram _ _ _ => session.isOpen
  | .socketError _ => session.isOpen
  | .sent _ => true
  | .timeUp => session.timerRuns

/-- What becomes of a session when something occurs. -/
def occur (inquiry : Inquiry) (clock : LocalClock) (session : Session) (entry : Int × Occurrence) : Session :=
  if session.hears entry.2 then
    match inquiry.answer? (clock.read entry.1) entry.2 with
    | some result => session.finish entry.1 result
    | none => session
  else session

/-- Whether a session still waits for an answer. -/
def IsWaiting (session : Session) : Prop :=
  session.isOpen = true ∧ session.timerRuns = true ∧ session.outcome = none

/-- Whether a session is over, with nothing left that could go on. -/
def IsOver (session : Session) : Prop :=
  session.isOpen = false ∧ session.timerRuns = false ∧ session.outcome.isSome

section

variable {inquiry : Inquiry} {clock : LocalClock} {session : Session}

/-- Everything that occurs comes through to a session that waits. -/
theorem IsWaiting.hears (h : session.IsWaiting) (occurrence : Occurrence) : session.hears occurrence = true := by
  obtain ⟨hopen, htimer, -⟩ := h
  cases occurrence with
  | datagram bytes address port => exact hopen
  | socketError failure => exact hopen
  | sent report => rfl
  | timeUp => exact htimer

/-- A session that waits is over when it is ended. -/
theorem IsWaiting.isOver_finish (h : session.IsWaiting) (time : Int) (result : Except Failure Exchange) :
    (session.finish time result).IsOver := by
  unfold finish
  rw [h.2.2]
  exact ⟨rfl, rfl, rfl⟩

/-- Ending a session that is over changes nothing. -/
theorem IsOver.finish_eq (h : session.IsOver) (time : Int) (result : Except Failure Exchange) :
    session.finish time result = session := by
  obtain ⟨trace, isOpen, timerRuns, outcome⟩ := session
  obtain ⟨-, rfl, houtcome⟩ := h
  obtain ⟨ending, rfl⟩ := Option.isSome_iff_exists.mp houtcome
  rfl

/-- Nothing that occurs changes a session that is over. -/
theorem occur_of_isOver (h : session.IsOver) (entry : Int × Occurrence) : session.occur inquiry clock entry = session := by
  unfold occur
  by_cases hheard : session.hears entry.2
  · rw [if_pos hheard]
    cases inquiry.answer? (clock.read entry.1) entry.2 with
    | none => rfl
    | some result => exact h.finish_eq entry.1 result
  · rw [if_neg hheard]

/-- Whatever else occurs, a session that is over stays as it is. -/
theorem foldl_occur_of_isOver (h : session.IsOver) (agenda : Agenda Occurrence) :
    agenda.foldl (occur inquiry clock) session = session := by
  induction agenda with
  | nil => rfl
  | cons entry rest ih => rw [List.foldl_cons, occur_of_isOver h, ih]

/-- A session that waits is ended by the first answer on the agenda. -/
theorem foldl_occur (h : session.IsWaiting) (agenda : Agenda Occurrence) :
    agenda.foldl (occur inquiry clock) session =
      match inquiry.firstAnswer? clock agenda with
      | some (time, result) => session.finish time result
      | none => session := by
  induction agenda with
  | nil => rfl
  | cons entry rest ih =>
    obtain ⟨time, occurrence⟩ := entry
    rw [List.foldl_cons]
    unfold occur Inquiry.firstAnswer?
    rw [if_pos (h.hears occurrence)]
    cases inquiry.answer? (clock.read time) occurrence with
    | none => exact ih
    | some result => exact foldl_occur_of_isOver (h.isOver_finish time result) rest

end

end Session

namespace ExchangeScript

/-- The session of an exchange that starts at a time, once the address of its server was found: a socket
of the right kind is opened, the timer is started and a request is sent, which may be refused. Then all
that is on the agenda occurs. -/
def session (script : ExchangeScript) (clock : LocalClock) (start : Int) (endpoint : Endpoint) (timeoutMs : Int)
    (resolved : ResolvedAddress) : Session :=
  let inquiry : Inquiry :=
    { address := resolved.address, port := endpoint.port, timeoutMs, sentMs := clock.read start }
  let sent : Session :=
    { trace := [
        (start, .lookup endpoint.host),
        (start, .openSocket (resolved.family = 6)),
        (start, .send Packet.request endpoint.port resolved.address)]
      isOpen := true
      timerRuns := true
      outcome := none }
  let begun := match script.send with
    | .refused failure => sent.finish start (.error (inquiry.unsent failure))
    | .reported _ _ => sent
  (script.agenda start timeoutMs).foldl (Session.occur inquiry clock) begun

variable {script : ExchangeScript}

/-- The session of an exchange does what the exchange does, and in the end its socket is closed, its timer
stopped and its result known. -/
theorem session_eq (clock : LocalClock) (start : Int) (endpoint : Endpoint) (timeoutMs : Int)
    {resolved : ResolvedAddress} (hlookup : script.lookup = .ok resolved) :
    let run := script.play clock start endpoint timeoutMs
    script.session clock start endpoint timeoutMs resolved =
      { trace := run.trace, isOpen := false, timerRuns := false, outcome := some (run.endTime, run.result) } := by
  intro run
  let inquiry : Inquiry := { address := resolved.address, port := endpoint.port, timeoutMs, sentMs := clock.read start }
  obtain ⟨time, occurrence, result, hfirst, hsettles⟩ := script.exists_settles clock inquiry start
  have hrun : run = _ := play_of_firstDecisive hlookup hfirst hsettles
  rw [hrun]
  unfold session
  cases hsend : script.send with
  | refused failure =>
    unfold FirstDecisive at hfirst
    rw [hsend] at hfirst
    obtain ⟨rfl, rfl⟩ := hfirst
    cases hsettles
    -- The agenda finds the session over already.
    exact Session.foldl_occur_of_isOver ⟨rfl, rfl, rfl⟩ _
  | reported after report =>
    have hanswer := (firstAnswer?_agenda clock hsend time result).mpr ⟨occurrence, hfirst, hsettles⟩
    refine (Session.foldl_occur ⟨rfl, rfl, rfl⟩ _).trans ?_
    rw [hanswer]
    rfl

/-- An exchange always ends, and no later than the time allowed after its start. Where no address is found
it only asks for one, and fails at once for that reason. Otherwise it opens one socket, for the right
version of the protocol, sends one request of 48 bytes to the server and closes the socket at its end, as
its last effect; nothing that occurs can close the socket again, keep the timer running or leave the
exchange without a result. -/
theorem play_ends (script : ExchangeScript) (clock : LocalClock) (start : Int) (server : String) (port : Number)
    (timeoutMs : Int) (htimeout : 0 ≤ timeoutMs) :
    let endpoint := Endpoint.ofText server port
    let run := script.play clock start endpoint timeoutMs
    start ≤ run.endTime ∧ run.endTime ≤ start + timeoutMs ∧
      match script.lookup with
      | .error cause =>
        run.trace = [(start, .lookup endpoint.host)] ∧
          run.result = .error (.faultFrom (.unresolved endpoint.host) cause)
      | .ok resolved =>
        run.trace = [
            (start, .lookup endpoint.host),
            (start, .openSocket (resolved.family = 6)),
            (start, .send Packet.request endpoint.port resolved.address),
            (run.endTime, .closeSocket)] ∧
          Packet.request.length = 48 ∧
          script.session clock start endpoint timeoutMs resolved =
            { trace := run.trace, isOpen := false, timerRuns := false, outcome := some (run.endTime, run.result) } := by
  intro endpoint run
  cases hlookup : script.lookup with
  | error cause =>
    have hrun : run =
        { trace := [(start, .lookup endpoint.host)]
          endTime := start
          result := .error (.faultFrom (.unresolved endpoint.host) cause) } := by
      show script.play clock start endpoint timeoutMs = _
      unfold play
      rw [hlookup]
    rw [hrun]
    exact ⟨Int.le_refl start, Int.le_add_of_nonneg_right htimeout, rfl, rfl⟩
  | ok resolved =>
    obtain ⟨time, occurrence, result, hfirst, hsettles⟩ := script.exists_settles clock
      { address := resolved.address, port := endpoint.port, timeoutMs, sentMs := clock.read start } start
    have hrun : run = _ := play_of_firstDecisive hlookup hfirst hsettles
    refine ⟨?_, ?_, ?_, rfl, session_eq clock start endpoint timeoutMs hlookup⟩
    · rw [hrun]
      exact hfirst.start_le
    · rw [hrun]
      exact hfirst.le_timeout htimeout
    · rw [hrun]

/-- The exchange where everything comes at once, with a request that is refused. -/
def refused : ExchangeScript := { crowded with send := .refused (.system .ordinary "no buffer") }

/-- Its socket is closed at once, and what comes after that makes no difference. -/
theorem play_ends_refused :
    let clock : LocalClock := ⟨1749999990000, []⟩
    let endpoint := Endpoint.ofText "ntp.example" (Number.ofInt 123)
    let run := refused.play clock 0 endpoint 20
    (0 : Int) ≤ 20 ∧ run.endTime = 0 ∧
      (refused.session clock 0 endpoint 20 ⟨"192.0.2.1", 4⟩).outcome = some (0, run.result) ∧
      run.trace = [
        (0, .lookup endpoint.host),
        (0, .openSocket false),
        (0, .send Packet.request endpoint.port "192.0.2.1"),
        (0, .closeSocket)] := by
  intro clock endpoint run
  have hallowed : (0 : Int) ≤ 20 := by decide
  have hend : run.endTime = 0 := rfl
  obtain ⟨-, -, htrace, -, hsession⟩ := play_ends refused clock 0 "ntp.example" (Number.ofInt 123) 20 hallowed
  exact ⟨hallowed, hend, congrArg Session.outcome hsession, htrace⟩

end ExchangeScript

end Sntp
