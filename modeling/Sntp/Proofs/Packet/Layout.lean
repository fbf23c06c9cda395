import Sntp.Packet.Response

/-!
# Where the fields of a packet lie

A packet is bytes at fixed positions (`bytesFrom`), each less than 256 (`byteAt_lt`), the first of which is
packed with three fields (`headerBits`). The mode, the version and the leap indicator are read off these bits, and
words of four bytes are read with the most significant byte first (`wordAt_eq_bigEndian`). Words and signed bytes can be
written back without loss (`wordBytes_bigEndian`, `ofInt_signedByteAt`), and so can the first byte
(`headerByte_fields`).
-/

set_option autoImplicit false

namespace Sntp.Packet

/-- The bytes of a packet from a position on, as many as are counted. -/
def bytesFrom (packet : Bytes) (position count : Nat) : Bytes := (packet.drop position).take count

/-- The bits of the first byte from a highest to a lowest one, read as a number. -/
def headerBits (packet : Bytes) (highest lowest : Nat) : Nat :=
  ((packet.getD 0 0).toBitVec.extractLsb highest lowest).toNat

/-- The number that bytes write, the first of them the most significant. -/
def bigEndian (bytes : Bytes) : Nat := bytes.foldl (fun number byte => 256 * number + byte.toNat) 0

/-- The four bytes that write a number of 32 bits, the first of them the most significant. -/
def wordBytes (number : Nat) : Bytes := [24, 16, 8, 0].map fun shift => UInt8.ofNat (number >>> shift)

/-- The first byte of a packet with these fields. -/
def headerByte (leap version mode : Nat) : UInt8 := UInt8.ofNat (leap <<< 6 ||| version <<< 3 ||| mode)

section

variable (packet : Bytes)

/-- A byte is less than 256. -/
theorem byteAt_lt (position : Nat) : byteAt packet position < 256 := (packet.getD position 0).toNat_lt

/-- Four bytes make less than two to the power of 32. -/
theorem wordAt_lt (position : Nat) : wordAt packet position < 4294967296 := by
  have h₀ := byteAt_lt packet position
  have h₁ := byteAt_lt packet (position + 1)
  have h₂ := byteAt_lt packet (position + 2)
  have h₃ := byteAt_lt packet (position + 3)
  unfold wordAt
  omega

/-- The mode is in the last three bits of the header. -/
theorem mode_eq_headerBits : mode packet = headerBits packet 2 0 := by
  unfold mode headerBits byteAt
  rw [BitVec.extractLsb_toNat]
  rfl

/-- The version is in the three bits before the mode. -/
theorem version_eq_headerBits : version packet = headerBits packet 5 3 := by
  unfold version headerBits byteAt
  rw [BitVec.extractLsb_toNat]
  exact congrArg (· % 8) (Nat.shiftRight_eq_div_pow _ 3).symm

/-- The leap indicator is in the first two bits of the header. -/
theorem leap_eq_headerBits : leap packet = headerBits packet 7 6 := by
  have hbyte := byteAt_lt packet 0
  unfold leap headerBits
  rw [BitVec.extractLsb_toNat, Nat.shiftRight_eq_div_pow]
  unfold byteAt at hbyte ⊢
  show _ = (packet.getD 0 0).toNat / 64 % 4
  omega

/-- A byte of a part of a packet is the one that lies as far from the start of that part. -/
theorem byteAt_add {offset count : Nat} (position : Nat) (h : offset < count) :
    byteAt packet (position + offset) = byteAt (bytesFrom packet position count) offset := by
  unfold byteAt bytesFrom
  simp [List.getD_eq_getElem?_getD, h]

/-- A word of a part of a packet is the one that lies as far from the start of that part. -/
theorem wordAt_add {offset count : Nat} (position : Nat) (h : offset + 4 ≤ count) :
    wordAt packet (position + offset) = wordAt (bytesFrom packet position count) offset := by
  unfold wordAt
  rw [Nat.add_assoc, Nat.add_assoc, Nat.add_assoc, byteAt_add packet position (show offset < count by omega),
    byteAt_add packet position (show offset + 1 < count by omega),
    byteAt_add packet position (show offset + 2 < count by omega),
    byteAt_add packet position (show offset + 3 < count by omega)]

/-- A byte stands at its position in every beginning of the packet that is long enough. -/
theorem byteAt_of_lt {position count : Nat} (h : position < count) :
    byteAt packet position = byteAt (bytesFrom packet 0 count) position := by
  rw [← byteAt_add packet 0 h, Nat.zero_add]

/-- As many bytes are taken as there are. -/
theorem length_bytesFrom {position count : Nat} (h : position + count ≤ packet.length) :
    (bytesFrom packet position count).length = count := by
  unfold bytesFrom
  rw [List.length_take, List.length_drop]
  omega

/-- Two parts of a packet that lie side by side are one. -/
theorem bytesFrom_add (position first second : Nat) :
    bytesFrom packet position (first + second) =
      bytesFrom packet position first ++ bytesFrom packet (position + first) second := by
  unfold bytesFrom
  rw [List.take_add, List.drop_drop]

/-- One more byte is taken in front of the others. -/
theorem bytesFrom_succ {position : Nat} (h : position < packet.length) (count : Nat) :
    bytesFrom packet position (count + 1) = packet.getD position 0 :: bytesFrom packet (position + 1) count := by
  unfold bytesFrom
  rw [List.drop_eq_getElem_cons h, List.take_succ_cons, List.getD_eq_getElem?_getD, List.getElem?_eq_getElem h]
  rfl

end

/-- What was written after bytes in front of it is found where these end. -/
theorem bytesFrom_append {position count : Nat} {front part : Bytes} (rest : Bytes) (hfront : front.length = position)
    (hpart : part.length = count) : bytesFrom (front ++ (part ++ rest)) position count = part := by
  unfold bytesFrom
  rw [← hfront, List.drop_left, ← hpart, List.take_left]

/-- The four bytes of a word, one by one. -/
theorem wordAt_eq_bigEndian {packet : Bytes} {position : Nat} (h : position + 4 ≤ packet.length) :
    wordAt packet position = bigEndian (bytesFrom packet position 4) := by
  match hbytes : bytesFrom packet position 4, length_bytesFrom packet h with
  | [first, second, third, fourth], _ =>
    have hbyte : ∀ offset < 4, byteAt packet (position + offset) = byteAt [first, second, third, fourth] offset := by
      intro offset hoffset
      rw [byteAt_add packet position hoffset, hbytes]
    have hfirst : byteAt packet position = first.toNat := hbyte 0 (by decide)
    unfold wordAt
    rw [hfirst, hbyte 1 (by decide), hbyte 2 (by decide), hbyte 3 (by decide)]
    simp [byteAt, bigEndian]
    omega

/-- A number is read back from its four bytes. -/
theorem bigEndian_wordBytes {number : Nat} (h : number < 4294967296) : bigEndian (wordBytes number) = number := by
  simp [bigEndian, wordBytes, Nat.shiftRight_eq_div_pow]
  omega

/-- Four bytes are written back as the number that they make. -/
theorem wordBytes_bigEndian {bytes : Bytes} (h : bytes.length = 4) : wordBytes (bigEndian bytes) = bytes := by
  match bytes, h with
  | [first, second, third, fourth], _ =>
    have hfirst := first.toNat_lt
    have hsecond := second.toNat_lt
    have hthird := third.toNat_lt
    have hfourth := fourth.toNat_lt
    simp [bigEndian, wordBytes, Nat.shiftRight_eq_div_pow, ← UInt8.toNat_inj]
    omega

/-- The word at a position is written back as the bytes there. -/
theorem wordBytes_wordAt {packet : Bytes} {position : Nat} (h : position + 4 ≤ packet.length) :
    wordBytes (wordAt packet position) = bytesFrom packet position 4 := by
  rw [wordAt_eq_bigEndian h, wordBytes_bigEndian (length_bytesFrom packet h)]

/-- A byte keeps of an integer what is left of it modulo 256. -/
theorem toNat_ofInt (number : Int) : (UInt8.ofInt number).toNat = (number % 256).toNat := by
  show (UInt8.ofNat (number % 256).toNat).toNat = _
  rw [UInt8.toNat_ofNat']
  omega

/-- A small signed number is read back from the byte that it is kept in. -/
theorem signedByteAt_of_ofInt {packet : Bytes} {position : Nat} {number : Int} (hlow : -128 ≤ number) (hhigh : number ≤ 127)
    (h : byteAt packet position = (UInt8.ofInt number).toNat) : signedByteAt packet position = number := by
  rw [toNat_ofInt] at h
  unfold signedByteAt
  rw [h]
  simp only []
  split <;> omega

/-- A byte is kept as the signed number that is read of it. -/
theorem ofInt_signedByteAt (packet : Bytes) (position : Nat) :
    UInt8.ofInt (signedByteAt packet position) = packet.getD position 0 := by
  have hbyte := byteAt_lt packet position
  rw [← UInt8.toNat_inj, toNat_ofInt]
  show _ = byteAt packet position
  unfold signedByteAt
  simp only []
  split <;> omega

/-- A signed byte is between -128 and 127. -/
theorem signedByteAt_bounds (packet : Bytes) (position : Nat) :
    -128 ≤ signedByteAt packet position ∧ signedByteAt packet position ≤ 127 := by
  have hbyte := byteAt_lt packet position
  unfold signedByteAt
  simp only []
  split <;> omega

/-- The header is put together from its three parts. -/
theorem toNat_headerByte {leap version mode : Nat} (hleap : leap < 4) (hversion : version < 8) (hmode : mode < 8) :
    (headerByte leap version mode).toNat = 64 * leap + 8 * version + mode := by
  have hlow : version <<< 3 ||| mode = 8 * version + mode := by
    rw [← Nat.shiftLeft_add_eq_or_of_lt hmode, Nat.shiftLeft_eq]
    omega
  have hall : leap <<< 6 ||| version <<< 3 ||| mode = 64 * leap + 8 * version + mode := by
    rw [Nat.or_assoc, hlow, ← Nat.shiftLeft_add_eq_or_of_lt (by omega), Nat.shiftLeft_eq]
    omega
  unfold headerByte
  rw [UInt8.toNat_ofNat', hall]
  omega

/-- The fields that the first byte was packed with are read off it again. -/
theorem fields_of_headerByte {packet : Bytes} {li vn sender : Nat} (hli : li < 4) (hvn : vn < 8) (hsender : sender < 8)
    (h : byteAt packet 0 = (headerByte li vn sender).toNat) :
    leap packet = li ∧ version packet = vn ∧ mode packet = sender := by
  rw [toNat_headerByte hli hvn hsender] at h
  unfold leap version mode
  omega

/-- The first byte is what its fields are packed into. -/
theorem headerByte_fields (packet : Bytes) :
    headerByte (leap packet) (version packet) (mode packet) = packet.getD 0 0 := by
  have hbyte := byteAt_lt packet 0
  have hleap : leap packet < 4 := by
    unfold leap
    omega
  have hversion : version packet < 8 := Nat.mod_lt _ (by decide)
  have hmode : mode packet < 8 := Nat.mod_lt _ (by decide)
  rw [← UInt8.toNat_inj, toNat_headerByte hleap hversion hmode]
  show _ = byteAt packet 0
  unfold leap version mode
  omega

end Sntp.Packet
