import Sntp.Proofs.Network.Race

/-!
# Foreign datagrams

Anyone can send a datagram to the socket of an exchange. One that does not come from the address that was found for
the server, or not from the port that was asked, is foreign (`isForeign`). No foreign datagram is decisive, so that
exchanges which differ in foreign datagrams only (`Alike`) have the same first decisive occurrence
(`Alike.firstDecisive_iff`), and go the same way (`Alike.play_eq`).
-/

set_option autoImplicit false

namespace Sntp.ExchangeScript

/-- Whether an occurrence in an exchange that asks a port is a datagram from elsewhere. Where no address is found
for the server, nothing was asked and every datagram is. -/
def isForeign (script : ExchangeScript) (port : Number) : Occurrence → Bool
  | .datagram _ address sender =>
    match script.lookup with
    | .ok resolved => decide (address ≠ resolved.address ∨ sender ≠ port)
    | .error _ => true
  | _ => false

/-- Whether two exchanges that ask a port are the same once foreign datagrams are left out: the same address is
found, the same becomes of the request, and the same else occurs at the same times and in the same order. -/
structure Alike (port : Number) (script other : ExchangeScript) : Prop where
  lookup_eq : other.lookup = script.lookup
  send_eq : other.send = script.send
  events_eq : (other.events.filter fun event => !script.isForeign port event.2) =
    script.events.filter fun event => !script.isForeign port event.2

section

variable {port : Number} {script other : ExchangeScript}

/-- Foreign datagrams can be put anywhere among the events of an exchange. -/
theorem alike_of_insert (before : List (Int × Occurrence)) {inserted after : List (Int × Occurrence)}
    (hevents : script.events = before ++ after)
    (hforeign : ∀ event ∈ inserted, script.isForeign port event.2 = true) :
    script.Alike port { script with events := before ++ inserted ++ after } where
  lookup_eq := rfl
  send_eq := rfl
  events_eq := by
    have hnone : (inserted.filter fun event => !script.isForeign port event.2) = [] := by
      rw [List.filter_eq_nil_iff]
      intro event hmem
      simp [hforeign event hmem]
    rw [hevents, List.filter_append, List.filter_append, List.filter_append, hnone, List.append_nil]

variable {inquiry : Inquiry} {start : Int}

/-- What is decisive is not foreign. -/
theorem isForeign_of_isDecisive {resolved : ResolvedAddress} (hlookup : script.lookup = .ok resolved)
    (haddress : inquiry.address = resolved.address) {occurrence : Occurrence} (h : inquiry.IsDecisive occurrence) :
    script.isForeign inquiry.port occurrence = false := by
  cases occurrence with
  | datagram bytes address sender =>
    obtain ⟨rfl, rfl⟩ := h
    simp [isForeign, hlookup, haddress]
  | socketError failure => rfl
  | sent report => rfl
  | timeUp => rfl

/-- Exchanges that are alike have the same schedule, foreign datagrams aside. -/
theorem Alike.scheduled_filter (h : script.Alike port other) (start timeoutMs : Int) :
    ((other.scheduled start timeoutMs).filter fun entry => !script.isForeign port entry.2) =
      (script.scheduled start timeoutMs).filter fun entry => !script.isForeign port entry.2 := by
  have hevents : ∀ events : List (Int × Occurrence),
      ((events.map fun event => (start + event.1, event.2)).filter fun entry => !script.isForeign port entry.2) =
        (events.filter fun event => !script.isForeign port event.2).map fun event => (start + event.1, event.2) :=
    fun events => List.filter_map
  unfold scheduled
  rw [List.filter_append, List.filter_append, hevents, hevents, h.events_eq, h.send_eq]

/-- Foreign datagrams do not change what is decisive first. -/
theorem Alike.firstDecisive_iff (h : script.Alike inquiry.port other) {resolved : ResolvedAddress}
    (hlookup : script.lookup = .ok resolved) (haddress : inquiry.address = resolved.address) (time : Int)
    (occurrence : Occurrence) :
    other.FirstDecisive inquiry start time occurrence ↔ script.FirstDecisive inquiry start time occurrence := by
  have hfirst : ∀ due, Agenda.IsFirst inquiry.IsDecisive (other.scheduled start inquiry.timeoutMs) due occurrence ↔
      Agenda.IsFirst inquiry.IsDecisive (script.scheduled start inquiry.timeoutMs) due occurrence := by
    intro due
    have hkeep : ∀ entry : Int × Occurrence, inquiry.IsDecisive entry.2 →
        (!script.isForeign inquiry.port entry.2) = true := by
      intro entry hdecisive
      rw [isForeign_of_isDecisive hlookup haddress hdecisive]
      rfl
    rw [← Agenda.IsFirst.filter_iff _ hkeep, h.scheduled_filter, Agenda.IsFirst.filter_iff _ hkeep]
  unfold FirstDecisive
  rw [h.send_eq]
  cases script.send with
  | refused failure => rfl
  | reported after report => exact exists_congr fun due => and_congr_right fun _ => hfirst due

/-- Exchanges that differ in foreign datagrams only go the same way: the same is done at the same times, and they come
to the same. -/
theorem Alike.play_eq {endpoint : Endpoint} (h : script.Alike endpoint.port other) (clock : LocalClock)
    (start timeoutMs : Int) :
    other.play clock start endpoint timeoutMs = script.play clock start endpoint timeoutMs := by
  cases hlookup : script.lookup with
  | error cause =>
    unfold play
    rw [h.lookup_eq, hlookup]
  | ok resolved =>
    obtain ⟨time, occurrence, result, hfirst, hsettles⟩ := script.exists_settles clock
      { address := resolved.address, port := endpoint.port, timeoutMs, sentMs := clock.read start } start
    rw [play_of_firstDecisive hlookup hfirst hsettles]
    exact play_of_firstDecisive (h.lookup_eq.trans hlookup) ((h.firstDecisive_iff hlookup rfl _ _).mpr hfirst) hsettles

end

end Sntp.ExchangeScript
