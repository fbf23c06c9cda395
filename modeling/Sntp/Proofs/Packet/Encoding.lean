import Sntp.Proofs.Packet.Reference
import Sntp.Proofs.Packet.Verdict

/-!
# Laying out a response

`Response.encode` lays a response out in a packet, with any reference bytes, any bytes in the part that nothing
reads, and any bytes after the packet. Reading it again gives the numbers of the response back
(`fieldsOf_encode`, `exists_ofBytes_encode`), and laying out what was read of a packet gives the parts of the packet
that were read (`front_fieldsOf`, `time_fieldsOf`, `bytesFrom_encode_fieldsOf`).
-/

set_option autoImplicit false

namespace Sntp.Response

open Packet

/-- Whether the numbers of a response are those that the packet of a synchronized server can hold. -/
structure IsSendable (r : Response) : Prop where
  leap_le : r.leap ≤ 2
  version_ge : 1 ≤ r.version
  version_le : r.version ≤ 4
  mode_eq : r.mode = 4
  stratum_ge : 1 ≤ r.stratum
  stratum_le : r.stratum ≤ 255
  poll_ge : -128 ≤ r.poll
  poll_le : r.poll ≤ 127
  precision_ge : -128 ≤ r.precision
  precision_le : r.precision ≤ 127
  rootDelay_lt : r.rootDelay < 4294967296
  rootDispersion_lt : r.rootDispersion < 4294967296
  seconds_ge : 2208988800 ≤ r.seconds
  seconds_lt : r.seconds < 4294967296
  fraction_lt : r.fraction < 4294967296

/-- The first twelve bytes of a packet, up to the reference. -/
def front (r : Response) : Bytes :=
  [headerByte r.leap r.version r.mode, UInt8.ofNat r.stratum, UInt8.ofInt r.poll, UInt8.ofInt r.precision] ++
    (wordBytes r.rootDelay ++ wordBytes r.rootDispersion)

/-- The eight bytes of the time at which a packet left. -/
def time (r : Response) : Bytes := wordBytes r.seconds ++ wordBytes r.fraction

/-- The packet in which a response is laid out, with given bytes in the places that its numbers do not fill. -/
def encode (r : Response) (reference unread trailing : Bytes) : Bytes :=
  r.front ++ (reference ++ (unread ++ (r.time ++ trailing)))

section

variable {r : Response} {reference unread : Bytes} (trailing : Bytes)

/-- The fields before the reference are twelve bytes long. -/
theorem length_front (r : Response) : r.front.length = 12 := rfl

/-- The time of transmission is eight bytes long. -/
theorem length_time (r : Response) : r.time.length = 8 := rfl

/-- An encoded response is at least as long as a response has to be. -/
theorem length_encode (hreference : reference.length = 4) (hunread : unread.length = 24) :
    48 ≤ (r.encode reference unread trailing).length := by
  simp only [encode, List.length_append, length_front, length_time]
  omega

/-- The first fields of an encoded response stand at its beginning. -/
theorem bytesFrom_encode_front : bytesFrom (r.encode reference unread trailing) 0 12 = r.front := by
  unfold bytesFrom encode
  rw [List.drop_zero, ← r.length_front, List.take_left]

/-- The reference of an encoded response stands after the first fields. -/
theorem bytesFrom_encode_reference (hreference : reference.length = 4) :
    bytesFrom (r.encode reference unread trailing) 12 4 = reference :=
  bytesFrom_append _ r.length_front hreference

/-- The time of an encoded response stands after the reference and what is not read. -/
theorem bytesFrom_encode_time (hreference : reference.length = 4) (hunread : unread.length = 24) :
    bytesFrom (r.encode reference unread trailing) 40 8 = r.time := by
  have hsplit : r.encode reference unread trailing = (r.front ++ (reference ++ unread)) ++ (r.time ++ trailing) := by
    simp only [encode, List.append_assoc]
  rw [hsplit]
  refine bytesFrom_append trailing ?_ r.length_time
  simp only [List.length_append, length_front, hreference, hunread]

end

variable {r : Response}

/-- A word that was written into a part of a packet is what is read there. -/
theorem wordAt_of_bytesFrom {part : Bytes} {position number : Nat} (hnumber : number < 4294967296)
    (hpart : bytesFrom part position 4 = wordBytes number) : wordAt part position = number := by
  have hlength : (bytesFrom part position 4).length = 4 := congrArg List.length hpart
  have hinside : position + 4 ≤ part.length := by
    unfold bytesFrom at hlength
    rw [List.length_take, List.length_drop] at hlength
    omega
  rw [wordAt_eq_bigEndian hinside, hpart, bigEndian_wordBytes hnumber]

/-- What is read of a packet that a response was laid out in is that response, but for its reference, and the
time that its timestamp tells. -/
theorem fieldsOf_encode (h : r.IsSendable) {packet : Bytes} (hfront : bytesFrom packet 0 12 = r.front)
    (htime : bytesFrom packet 40 8 = r.time) :
    fieldsOf packet =
      { r with
        reference := Packet.reference packet
        transmitMs := ((r.seconds - 2208988800) * 1000 + r.fraction * 1000 / 4294967296 : Nat) } := by
  have hbyte : ∀ position < 12, byteAt packet position = byteAt r.front position := fun position hposition => by
    rw [byteAt_of_lt packet hposition, hfront]
  have hword : ∀ position, position + 4 ≤ 12 → wordAt packet position = wordAt r.front position := by
    intro position hposition
    rw [← Nat.zero_add position, wordAt_add packet 0 hposition, hfront, Nat.zero_add]
  have hlate : ∀ offset, offset + 4 ≤ 8 → wordAt packet (40 + offset) = wordAt r.time offset := by
    intro offset hoffset
    rw [wordAt_add packet 40 hoffset, htime]
  obtain ⟨hleap, hversion, hmode⟩ := fields_of_headerByte (Nat.lt_of_le_of_lt h.leap_le (by decide))
    (Nat.lt_of_le_of_lt h.version_le (by decide)) (Nat.lt_of_le_of_lt (Nat.le_of_eq h.mode_eq) (by decide))
    (hbyte 0 (by decide))
  have hstratum : Packet.stratum packet = r.stratum :=
    (hbyte 1 (by decide)).trans (UInt8.toNat_ofNat_of_lt (Nat.lt_succ_of_le h.stratum_le))
  have hpoll : signedByteAt packet 2 = r.poll := signedByteAt_of_ofInt h.poll_ge h.poll_le (hbyte 2 (by decide))
  have hprecision : signedByteAt packet 3 = r.precision :=
    signedByteAt_of_ofInt h.precision_ge h.precision_le (hbyte 3 (by decide))
  have hdelay : wordAt packet 4 = r.rootDelay :=
    (hword 4 (by decide)).trans (wordAt_of_bytesFrom h.rootDelay_lt rfl)
  have hdispersion : wordAt packet 8 = r.rootDispersion :=
    (hword 8 (by decide)).trans (wordAt_of_bytesFrom h.rootDispersion_lt rfl)
  have hseconds : transmitSeconds packet = r.seconds :=
    (hlate 0 (by decide)).trans (wordAt_of_bytesFrom h.seconds_lt rfl)
  have hfraction : transmitFraction packet = r.fraction :=
    (hlate 4 (by decide)).trans (wordAt_of_bytesFrom h.fraction_lt rfl)
  unfold fieldsOf
  rw [hleap, hversion, hmode, hstratum, hpoll, hprecision, hdelay, hdispersion, hseconds, hfraction]

/-- The packet that a response is laid out in meets all demands. -/
theorem demands_met (h : r.IsSendable) {packet : Bytes} (hlength : 48 ≤ packet.length)
    (hfront : bytesFrom packet 0 12 = r.front) (htime : bytesFrom packet 40 8 = r.time) :
    ∀ demand ∈ demands packet, demand.1 = true := by
  have hfields := fieldsOf_encode h hfront htime
  have hmode : Packet.mode packet = r.mode := congrArg Response.mode hfields
  have hstratum : Packet.stratum packet = r.stratum := congrArg Response.stratum hfields
  have hversion : Packet.version packet = r.version := congrArg Response.version hfields
  have hleap : Packet.leap packet = r.leap := congrArg Response.leap hfields
  have hseconds : transmitSeconds packet = r.seconds := congrArg Response.seconds hfields
  rw [forall_demands_iff, hmode, hstratum, hversion, hleap, hseconds]
  exact ⟨hlength, h.mode_eq, Nat.pos_iff_ne_zero.mp h.stratum_ge, ⟨h.version_ge, h.version_le⟩,
    Nat.ne_of_lt (Nat.lt_succ_of_le h.leap_le), h.seconds_ge⟩

section

variable {packet : Bytes}

/-- What is read of a packet that is accepted can be laid out. -/
theorem isSendable_fieldsOf (h : ∀ demand ∈ demands packet, demand.1 = true) : (fieldsOf packet).IsSendable := by
  obtain ⟨-, hmode, hstratum, ⟨hversion, hversion'⟩, hleap, hseconds⟩ := (forall_demands_iff packet).mp h
  obtain ⟨hpoll, hpoll'⟩ := signedByteAt_bounds packet 2
  obtain ⟨hprecision, hprecision'⟩ := signedByteAt_bounds packet 3
  have hleap' : Packet.leap packet ≤ 2 := by
    have hbyte := byteAt_lt packet 0
    unfold Packet.leap at hleap ⊢
    omega
  exact {
    leap_le := hleap'
    version_ge := hversion
    version_le := hversion'
    mode_eq := hmode
    stratum_ge := Nat.pos_of_ne_zero hstratum
    stratum_le := Nat.le_of_lt_succ (byteAt_lt packet 1)
    poll_ge := hpoll
    poll_le := hpoll'
    precision_ge := hprecision
    precision_le := hprecision'
    rootDelay_lt := wordAt_lt packet 4
    rootDispersion_lt := wordAt_lt packet 8
    seconds_ge := hseconds
    seconds_lt := wordAt_lt packet 40
    fraction_lt := wordAt_lt packet 44 }

/-- Laid out again, what was read of a packet fills its first twelve bytes as the packet does. -/
theorem front_fieldsOf (h : 48 ≤ packet.length) : (fieldsOf packet).front = bytesFrom packet 0 12 := by
  have hheader : bytesFrom packet 0 4 =
      [packet.getD 0 0, packet.getD 1 0, packet.getD 2 0, packet.getD 3 0] := by
    rw [bytesFrom_succ packet (by omega), bytesFrom_succ packet (by omega), bytesFrom_succ packet (by omega),
      bytesFrom_succ packet (by omega)]
    rfl
  have hstratum : UInt8.ofNat (Packet.stratum packet) = packet.getD 1 0 := UInt8.ofNat_toNat
  unfold front fieldsOf
  rw [headerByte_fields, hstratum, ofInt_signedByteAt, ofInt_signedByteAt, wordBytes_wordAt (by omega),
    wordBytes_wordAt (by omega), ← hheader]
  exact (congrArg (bytesFrom packet 0 4 ++ ·) (bytesFrom_add packet 4 4 4).symm).trans (bytesFrom_add packet 0 4 8).symm

/-- Laid out again, the time that was read of a packet fills eight bytes as the packet does. -/
theorem time_fieldsOf (h : 48 ≤ packet.length) : (fieldsOf packet).time = bytesFrom packet 40 8 := by
  unfold time fieldsOf transmitSeconds transmitFraction
  rw [wordBytes_wordAt (by omega), wordBytes_wordAt (by omega)]
  exact (bytesFrom_add packet 40 4 4).symm

/-- From stratum 2 on the reference that was read of a packet, written as an address again, fills the places
after the first twelve bytes as the packet does. -/
theorem bytesFrom_encode_fieldsOf (h : 48 ≤ packet.length) (hremote : 2 ≤ Packet.stratum packet) (unread trailing : Bytes) :
    bytesFrom ((fieldsOf packet).encode (ofDottedDecimal (fieldsOf packet).reference.toList) unread trailing) 0 16 =
      bytesFrom packet 0 16 := by
  have hfour : (bytesFrom packet 12 4).length = 4 := length_bytesFrom packet (by omega)
  have hsome : bytesFrom packet 12 4 ≠ [] := List.ne_nil_of_length_pos (by omega)
  have hreference : (fieldsOf packet).reference.toList = dottedDecimal (bytesFrom packet 12 4) := by
    show (Packet.reference packet).toList = _
    unfold Packet.reference
    rw [if_neg (Nat.not_lt.mpr hremote), referenceAddress_eq (by omega), String.toList_ofList]
  rw [hreference, ofDottedDecimal_dottedDecimal hsome, bytesFrom_add _ 0 12 4, bytesFrom_add packet 0 12 4,
    bytesFrom_encode_front, front_fieldsOf h]
  exact congrArg (_ ++ ·) (bytesFrom_encode_reference trailing hfour)

end

/-- The packet in which a response is laid out is accepted. Its numbers are read as they were, and so is its
reference: as an address from stratum 2 on, and as a code at stratum 1 if its bytes write one. -/
theorem exists_ofBytes_encode (h : r.IsSendable) {reference unread : Bytes} (trailing : Bytes)
    (hreference : reference.length = 4) (hunread : unread.length = 24) :
    ∃ text, ofBytes (r.encode reference unread trailing) =
        .ok { r with
          reference := String.ofList text
          transmitMs := ((r.seconds - 2208988800) * 1000 + r.fraction * 1000 / 4294967296 : Nat) } ∧
      (2 ≤ r.stratum → text = dottedDecimal reference) ∧
      ∀ code, r.stratum = 1 → IsCode code → reference = codeBytes code → text = code := by
  have hlength : 48 ≤ (r.encode reference unread trailing).length := length_encode trailing hreference hunread
  have hfront : bytesFrom (r.encode reference unread trailing) 0 12 = r.front := bytesFrom_encode_front trailing
  have htime : bytesFrom (r.encode reference unread trailing) 40 8 = r.time :=
    bytesFrom_encode_time trailing hreference hunread
  have hbytes : bytesFrom (r.encode reference unread trailing) 12 4 = reference :=
    bytesFrom_encode_reference trailing hreference
  generalize r.encode reference unread trailing = packet at hlength hfront htime hbytes
  have hfields := fieldsOf_encode h hfront htime
  have hstratum : Packet.stratum packet = r.stratum := congrArg Response.stratum hfields
  refine ⟨if Packet.stratum packet < 2 then referenceCode packet else referenceAddress packet, ?_, ?_, ?_⟩
  · exact (ofBytes_eq_ok_iff packet _).mpr ⟨demands_met h hlength hfront htime, hfields.symm⟩
  · intro hremote
    rw [if_neg (by omega), referenceAddress_eq (by omega), hbytes]
  · intro code hprimary hcode hreference
    rw [if_pos (by omega)]
    exact referenceCode_of_codeBytes (by omega) hcode (hbytes.trans hreference)

/-- Reading undoes laying out: the packet in which a response is laid out is accepted, and its numbers are
read as they were, whatever stands in the places that they do not fill. The reference is read as an address
from stratum 2 on, and at stratum 1 as the code that its bytes write. Conversely laying out undoes reading: a
response that was read, laid out again, fills its places as the packet does that it was read of, and from
stratum 2 on its reference gives the reference bytes back. -/
theorem layout_roundTrip :
    (∀ (r : Response) (reference unread trailing : Bytes), r.IsSendable → reference.length = 4 → unread.length = 24 →
      ∃ text, ofBytes (r.encode reference unread trailing) =
          .ok { r with
            reference := String.ofList text
            transmitMs := ((r.seconds - 2208988800) * 1000 + r.fraction * 1000 / 4294967296 : Nat) } ∧
        (2 ≤ r.stratum → text = dottedDecimal reference) ∧
        ∀ code, r.stratum = 1 → IsCode code → reference = codeBytes code → text = code) ∧
    ∀ (packet : Bytes) (r : Response), ofBytes packet = .ok r → r.IsSendable ∧
      ∀ reference unread trailing : Bytes, reference.length = 4 → unread.length = 24 →
        bytesFrom (r.encode reference unread trailing) 0 12 = bytesFrom packet 0 12 ∧
        bytesFrom (r.encode reference unread trailing) 40 8 = bytesFrom packet 40 8 ∧
        (2 ≤ r.stratum → bytesFrom (r.encode (ofDottedDecimal r.reference.toList) unread trailing) 0 16 =
          bytesFrom packet 0 16) := by
  constructor
  · intro r reference unread trailing h hreference hunread
    exact exists_ofBytes_encode h trailing hreference hunread
  · intro packet r hread
    obtain ⟨hdemands, rfl⟩ := (ofBytes_eq_ok_iff packet r).mp hread
    have hlength : 48 ≤ packet.length := ((forall_demands_iff packet).mp hdemands).1
    refine ⟨isSendable_fieldsOf hdemands, fun reference unread trailing hreference hunread => ⟨?_, ?_, fun hremote => ?_⟩⟩
    · rw [bytesFrom_encode_front, front_fieldsOf hlength]
    · rw [bytesFrom_encode_time trailing hreference hunread, time_fieldsOf hlength]
    · exact bytesFrom_encode_fieldsOf hlength hremote unread trailing

/-- The response of a server with its own clock in the last millisecond that a packet can tell, with numbers at
the ends of their ranges. -/
def lastMoment : Response where
  leap := 2
  version := 1
  mode := 4
  stratum := 1
  poll := -128
  precision := 127
  rootDelay := 4294967295
  rootDispersion := 0
  reference := "GPS"
  seconds := 4294967295
  fraction := 4294967295
  transmitMs := 2085978495999

/-- It is read as it was laid out, and then laid out as before. -/
theorem layout_roundTrip_lastMoment :
    let packet := lastMoment.encode (codeBytes ['G', 'P', 'S']) (List.replicate 24 0xFF) [0xFF]
    lastMoment.IsSendable ∧ ofBytes packet = .ok lastMoment ∧
      bytesFrom (lastMoment.encode [1, 2, 3, 4] (List.replicate 24 0) []) 40 8 = bytesFrom packet 40 8 := by
  intro packet
  have hsendable : lastMoment.IsSendable := by constructor <;> decide
  have hcode : IsCode ['G', 'P', 'S'] := ⟨by decide, by simp, by decide, by decide⟩
  obtain ⟨hdecode, hencode⟩ := layout_roundTrip
  obtain ⟨text, hread, -, htext⟩ :=
    hdecode lastMoment (codeBytes ['G', 'P', 'S']) (List.replicate 24 0xFF) [0xFF] hsendable (by decide) (by decide)
  obtain rfl := htext ['G', 'P', 'S'] rfl hcode rfl
  obtain ⟨-, hagain⟩ := hencode packet lastMoment hread
  exact ⟨hsendable, hread, (hagain [1, 2, 3, 4] (List.replicate 24 0) [] (by decide) (by decide)).2.1⟩

end Sntp.Response
