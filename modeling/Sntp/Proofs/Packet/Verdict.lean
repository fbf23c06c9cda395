import Sntp.Proofs.Packet.Reference

/-!
# Which responses are accepted

A response is asked for what `Packet.demands` lists, one thing after the other: its length, the mode of a
server, a stratum, a known version, a synchronized clock and a time not before 1970. A packet that meets all
demands is read, and otherwise the first one that it does not meet gives the fault (`ofBytes_eq`).

Demands and fields are looked for in the first sixteen bytes and in the eight bytes of the time, so that
nothing else in a packet makes a difference (`ofBytes_congr`).
-/

set_option autoImplicit false

namespace Sntp

namespace Packet

/-- What is asked of a response, in this order, each with the fault of a packet that does not have it. -/
def demands (packet : Bytes) : List (Bool × Fault) :=
  let time := bigEndian (bytesFrom packet 40 4)
  [ (48 ≤ packet.length, .shortPacket packet.length),
    (headerBits packet 2 0 = 4, .wrongMode (headerBits packet 2 0)),
    (packet.getD 1 0 ≠ 0, .kissOfDeath (String.ofList (shownCode (bytesFrom packet 12 4)))),
    (1 ≤ headerBits packet 5 3 ∧ headerBits packet 5 3 ≤ 4, .wrongVersion (headerBits packet 5 3)),
    (headerBits packet 7 6 ≠ 3, .unsynchronized),
    (2208988800 ≤ time, .earlyTimestamp time) ]

/-- The first of some demands that is not met. -/
def firstUnmet? (demands : List (Bool × Fault)) : Option (Bool × Fault) := demands.find? fun demand => !demand.1

section

variable {met : Prop} [Decidable met] (fault : Fault) (rest : List (Bool × Fault))

/-- A demand that is met is passed over. -/
theorem firstUnmet?_of_met (h : met) : firstUnmet? ((decide met, fault) :: rest) = firstUnmet? rest := by
  rw [decide_eq_true h]
  rfl

/-- A demand that is not met is the first one. -/
theorem firstUnmet?_of_unmet (h : ¬ met) : firstUnmet? ((decide met, fault) :: rest) = some (false, fault) := by
  rw [decide_eq_false h]
  rfl

end

/-- The second byte is the stratum. -/
theorem getD_one_eq_zero_iff (packet : Bytes) : packet.getD 1 0 = 0 ↔ stratum packet = 0 := by
  unfold stratum byteAt
  rw [← UInt8.toNat_inj]
  rfl

end Packet

namespace Response

/-- The fields that stand in a packet. -/
def fieldsOf (packet : Bytes) : Response where
  leap := Packet.leap packet
  version := Packet.version packet
  mode := Packet.mode packet
  stratum := Packet.stratum packet
  poll := Packet.signedByteAt packet 2
  precision := Packet.signedByteAt packet 3
  rootDelay := Packet.wordAt packet 4
  rootDispersion := Packet.wordAt packet 8
  reference := Packet.reference packet
  seconds := Packet.transmitSeconds packet
  fraction := Packet.transmitFraction packet
  transmitMs := ((Packet.transmitSeconds packet - 2208988800) * 1000 + Packet.transmitFraction packet * 1000 / 4294967296 : Nat)

open Packet (firstUnmet? firstUnmet?_of_met firstUnmet?_of_unmet)

/-- A packet is read if it meets all demands, and is refused with the fault of the first one that it does not meet. -/
theorem ofBytes_eq (packet : Bytes) :
    ofBytes packet =
      (firstUnmet? (Packet.demands packet)).elim (.ok (fieldsOf packet)) fun demand => .error demand.2 := by
  unfold Packet.demands ofBytes Packet.defect?
  rw [← Packet.mode_eq_headerBits, ← Packet.version_eq_headerBits, ← Packet.leap_eq_headerBits]
  -- One demand after the other: the first that is not met ends the reading as it ends the list.
  by_cases hlength : 48 ≤ packet.length
  case neg =>
    have hshort : packet.length < Packet.size := Nat.not_le.mp hlength
    rw [if_pos hshort, firstUnmet?_of_unmet _ _ hlength]
    rfl
  have hlong : ¬ packet.length < Packet.size := Nat.not_lt.mpr hlength
  have htime : Packet.bigEndian (Packet.bytesFrom packet 40 4) = Packet.transmitSeconds packet :=
    (Packet.wordAt_eq_bigEndian (Nat.le_trans (by decide) hlength)).symm
  rw [if_neg hlong, firstUnmet?_of_met _ _ hlength, htime]
  by_cases hmode : Packet.mode packet = 4
  case neg =>
    have hother : Packet.mode packet ≠ Packet.serverMode := hmode
    rw [if_pos hother, firstUnmet?_of_unmet _ _ hmode]
    rfl
  have hserver : ¬ Packet.mode packet ≠ Packet.serverMode := not_not_intro hmode
  rw [if_neg hserver, firstUnmet?_of_met _ _ hmode]
  by_cases hstratum : packet.getD 1 0 ≠ 0
  case neg =>
    have hnone : Packet.stratum packet = 0 := (Packet.getD_one_eq_zero_iff packet).mp (Decidable.not_not.mp hstratum)
    have hcode : Packet.reference packet = String.ofList (Packet.shownCode (Packet.bytesFrom packet 12 4)) := by
      rw [← Packet.referenceCode_eq_shownCode (Nat.le_trans (by decide) hlength)]
      simp [Packet.reference, hnone]
    rw [if_pos hnone, firstUnmet?_of_unmet _ _ hstratum, hcode]
    rfl
  have hsome : Packet.stratum packet ≠ 0 := fun h => hstratum ((Packet.getD_one_eq_zero_iff packet).mpr h)
  rw [if_neg hsome, firstUnmet?_of_met _ _ hstratum]
  by_cases hversion : 1 ≤ Packet.version packet ∧ Packet.version packet ≤ 4
  case neg =>
    rw [if_pos (by omega), firstUnmet?_of_unmet _ _ hversion]
    rfl
  rw [if_neg (by omega), firstUnmet?_of_met _ _ hversion]
  by_cases hleap : Packet.leap packet ≠ 3
  case neg =>
    have hunsynchronized : Packet.leap packet = Packet.unsynchronizedLeap := Decidable.not_not.mp hleap
    rw [if_pos hunsynchronized, firstUnmet?_of_unmet _ _ hleap]
    rfl
  have hsynchronized : ¬ Packet.leap packet = Packet.unsynchronizedLeap := hleap
  rw [if_neg hsynchronized, firstUnmet?_of_met _ _ hleap]
  unfold Packet.unixMillis
  by_cases hepoch : 2208988800 ≤ Packet.transmitSeconds packet
  case neg =>
    have hearly : Packet.transmitSeconds packet < Packet.epochSeconds := Nat.not_le.mp hepoch
    rw [if_pos hearly, firstUnmet?_of_unmet _ _ hepoch]
    rfl
  have hlate : ¬ Packet.transmitSeconds packet < Packet.epochSeconds := Nat.not_lt.mpr hepoch
  rw [if_neg hlate, firstUnmet?_of_met _ _ hepoch]
  rfl

/-- The demands in terms of the fields. -/
theorem forall_demands_iff (packet : Bytes) :
    (∀ demand ∈ Packet.demands packet, demand.1 = true) ↔
      48 ≤ packet.length ∧ Packet.mode packet = 4 ∧ Packet.stratum packet ≠ 0 ∧
        (1 ≤ Packet.version packet ∧ Packet.version packet ≤ 4) ∧ Packet.leap packet ≠ 3 ∧
        2208988800 ≤ Packet.transmitSeconds packet := by
  unfold Packet.demands
  rw [← Packet.mode_eq_headerBits, ← Packet.version_eq_headerBits, ← Packet.leap_eq_headerBits]
  simp only [List.forall_mem_cons, List.not_mem_nil, false_implies, implies_true, and_true, decide_eq_true_eq, ne_eq,
    Packet.getD_one_eq_zero_iff]
  refine and_congr_right fun hlength => ?_
  rw [← Packet.wordAt_eq_bigEndian (Nat.le_trans (by decide) hlength)]
  exact Iff.rfl

/-- A packet is accepted exactly if it meets all demands, and its fields are then what is read. -/
theorem ofBytes_eq_ok_iff (packet : Bytes) (response : Response) :
    ofBytes packet = .ok response ↔
      (∀ demand ∈ Packet.demands packet, demand.1 = true) ∧ response = fieldsOf packet := by
  rw [ofBytes_eq]
  cases hfirst : firstUnmet? (Packet.demands packet) with
  | none =>
    have hall : ∀ demand ∈ Packet.demands packet, demand.1 = true := by
      intro demand hmem
      simpa using List.find?_eq_none.mp hfirst demand hmem
    constructor
    · rintro ⟨⟩
      exact ⟨hall, rfl⟩
    · rintro ⟨-, rfl⟩
      rfl
  | some demand =>
    have hunmet : demand.1 = false := by simpa using List.find?_some hfirst
    constructor
    · rintro ⟨⟩
    · rintro ⟨hall, -⟩
      rw [hall demand (List.mem_of_find?_eq_some hfirst)] at hunmet
      cases hunmet

/-- Packets that agree in their first sixteen bytes and in the bytes of their time are read alike. -/
theorem ofBytes_congr {packet other : Bytes} (hlength : 48 ≤ packet.length) (hlength' : 48 ≤ other.length)
    (hfront : Packet.bytesFrom other 0 16 = Packet.bytesFrom packet 0 16)
    (htime : Packet.bytesFrom other 40 8 = Packet.bytesFrom packet 40 8) : ofBytes other = ofBytes packet := by
  have hbyte : ∀ position, position < 16 → Packet.byteAt other position = Packet.byteAt packet position := by
    intro position hposition
    rw [Packet.byteAt_of_lt other hposition, Packet.byteAt_of_lt packet hposition, hfront]
  have hword : ∀ position, position + 4 ≤ 16 → Packet.wordAt other position = Packet.wordAt packet position := by
    intro position hposition
    rw [← Nat.zero_add position, Packet.wordAt_add other 0 hposition, Packet.wordAt_add packet 0 hposition, hfront]
  have hlate : ∀ offset, offset + 4 ≤ 8 → Packet.wordAt other (40 + offset) = Packet.wordAt packet (40 + offset) := by
    intro offset hoffset
    rw [Packet.wordAt_add other 40 hoffset, Packet.wordAt_add packet 40 hoffset, htime]
  have hseconds : Packet.transmitSeconds other = Packet.transmitSeconds packet := hlate 0 (by decide)
  have hfraction : Packet.transmitFraction other = Packet.transmitFraction packet := hlate 4 (by decide)
  have hreference : Packet.reference other = Packet.reference packet := by
    unfold Packet.reference Packet.referenceCode Packet.referenceAddress Packet.stratum
    simp only [List.map_cons, List.map_nil, hbyte 1 (by decide), hbyte 12 (by decide), hbyte 13 (by decide),
      hbyte 14 (by decide), hbyte 15 (by decide)]
  have hdefect : Packet.defect? other = Packet.defect? packet := by
    have hlong : ¬ packet.length < Packet.size := Nat.not_lt.mpr hlength
    have hlong' : ¬ other.length < Packet.size := Nat.not_lt.mpr hlength'
    unfold Packet.defect? Packet.mode Packet.version Packet.leap Packet.stratum
    rw [if_neg hlong, if_neg hlong', hbyte 0 (by decide), hbyte 1 (by decide), hreference]
  unfold ofBytes Packet.leap Packet.version Packet.mode Packet.stratum Packet.signedByteAt
  rw [hdefect, hseconds, hfraction, hreference, hbyte 0 (by decide), hbyte 1 (by decide), hbyte 2 (by decide),
    hbyte 3 (by decide), hword 4 (by decide), hword 8 (by decide)]

/-- A packet is accepted exactly if it meets all demands; otherwise it is refused for the first one that it
does not meet. For packets of whole length all this depends on the first sixteen bytes and the eight bytes
of the time alone. -/
theorem ofBytes_verdict (packet : Bytes) :
    ((∃ response, ofBytes packet = .ok response) ↔ ∀ demand ∈ Packet.demands packet, demand.1 = true) ∧
    (∀ fault, ofBytes packet = .error fault ↔
      (firstUnmet? (Packet.demands packet)).map Prod.snd = some fault) ∧
    ∀ other : Bytes, 48 ≤ packet.length → 48 ≤ other.length →
      Packet.bytesFrom other 0 16 = Packet.bytesFrom packet 0 16 →
      Packet.bytesFrom other 40 8 = Packet.bytesFrom packet 40 8 → ofBytes other = ofBytes packet := by
  refine ⟨⟨?_, fun hall => ?_⟩, fun fault => ?_, fun other => ofBytes_congr⟩
  · rintro ⟨response, hresponse⟩
    exact ((ofBytes_eq_ok_iff packet response).mp hresponse).1
  · exact ⟨fieldsOf packet, (ofBytes_eq_ok_iff packet _).mpr ⟨hall, rfl⟩⟩
  · rw [ofBytes_eq]
    cases firstUnmet? (Packet.demands packet) with
    | none => exact iff_of_false nofun nofun
    | some demand => simp

/-- The response of a server with its own clock, which is received with a code as its reference, and
bytes that nothing reads. -/
def ofOwnClock (unread trailing : Bytes) : Bytes :=
  [0x24, 1, 6, 0xEC, 0, 0, 0, 0, 0, 0, 0, 0, 0x47, 0x50, 0x53, 0] ++ unread ++
    [0xEB, 0xF9, 0x60, 0x00, 0, 0, 0, 0] ++ trailing

/-- Such a response is accepted, whatever those bytes are. -/
theorem ofBytes_verdict_ofOwnClock :
    (∃ response, ofBytes (ofOwnClock (List.replicate 24 0) []) = .ok response) ∧
      ofBytes (ofOwnClock (List.replicate 24 0xFF) [1, 2, 3]) = ofBytes (ofOwnClock (List.replicate 24 0) []) := by
  obtain ⟨haccepted, -, halike⟩ := ofBytes_verdict (ofOwnClock (List.replicate 24 0) [])
  exact ⟨haccepted.mpr (by decide), halike _ (by decide) (by decide) (by decide) (by decide)⟩

end Response

end Sntp
