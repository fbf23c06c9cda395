import Sntp.Proofs.Packet.Verdict

/-!
# What is read from a response

A response is refused only for a fault that a later response may not have (`ofBytes_error_retryable`).
The time of one that is read lies between 1970-01-01 and the end of the 32-bit count of seconds in
2036 (`transmitMs_bounds`), since a word has no more than 32 bits (`wordAt_lt`).
-/

set_option autoImplicit false

namespace Sntp

namespace Packet

/-- The last millisecond that a timestamp of 32-bit seconds and fraction can tell. -/
def lastMillis : Int := 2085978495999

/-- A timestamp of 32-bit seconds and fraction tells no time before 1970 and none after the last
millisecond. -/
theorem unixMillis_bounds {seconds fraction : Nat} {ms : Int} (hseconds : seconds < 4294967296)
    (hfraction : fraction < 4294967296) (h : unixMillis seconds fraction = .ok ms) :
    0 ≤ ms ∧ ms ≤ lastMillis := by
  unfold unixMillis epochSeconds fractionScale at h
  split at h
  · cases h
  · have hms := Except.ok.inj h
    unfold lastMillis
    omega

/-- The faults of the demands are all such that a later response may not have them. -/
theorem demands_retryable {packet : Bytes} {demand : Bool × Fault} (hmem : demand ∈ demands packet) :
    demand.2.isRetryable := by
  simp only [demands, List.mem_cons, List.not_mem_nil, or_false] at hmem
  rcases hmem with rfl | rfl | rfl | rfl | rfl | rfl <;> rfl

end Packet

namespace Response

/-- A response is refused for a demand that it does not meet. -/
theorem exists_demand_of_error {packet : Bytes} {fault : Fault} (h : ofBytes packet = .error fault) :
    ∃ demand ∈ Packet.demands packet, demand.2 = fault := by
  rw [ofBytes_eq] at h
  cases hfirst : Packet.firstUnmet? (Packet.demands packet) with
  | none =>
    rw [hfirst] at h
    cases h
  | some demand =>
    rw [hfirst] at h
    exact ⟨demand, List.mem_of_find?_eq_some hfirst, Except.error.inj h⟩

/-- A response that is refused may be followed by a better one. -/
theorem ofBytes_error_retryable {packet : Bytes} {fault : Fault} (h : ofBytes packet = .error fault) :
    fault.isRetryable := by
  obtain ⟨demand, hmem, rfl⟩ := exists_demand_of_error h
  exact Packet.demands_retryable hmem

/-- The time of a response that is read is the one that its timestamp tells. -/
theorem ofBytes_transmitMs {packet : Bytes} {response : Response} (h : ofBytes packet = .ok response) :
    Packet.unixMillis (Packet.transmitSeconds packet) (Packet.transmitFraction packet) = .ok response.transmitMs := by
  obtain ⟨hdemands, rfl⟩ := (ofBytes_eq_ok_iff packet response).mp h
  obtain ⟨-, -, -, -, -, hseconds⟩ := (forall_demands_iff packet).mp hdemands
  have hlate : ¬ Packet.transmitSeconds packet < Packet.epochSeconds := Nat.not_lt.mpr hseconds
  unfold Packet.unixMillis
  rw [if_neg hlate]
  rfl

/-- The time of a response that is read lies between 1970-01-01 and the last millisecond that a
timestamp can tell. -/
theorem transmitMs_bounds {packet : Bytes} {response : Response} (h : ofBytes packet = .ok response) :
    0 ≤ response.transmitMs ∧ response.transmitMs ≤ Packet.lastMillis :=
  Packet.unixMillis_bounds (Packet.wordAt_lt packet 40) (Packet.wordAt_lt packet 44) (ofBytes_transmitMs h)

end Response

end Sntp
