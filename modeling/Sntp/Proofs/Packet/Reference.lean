import Mathlib.Data.List.DropRight
import Sntp.Proofs.Packet.Layout
import Sntp.Proofs.Text.Trimming

/-!
# The reference of a packet

The four reference bytes stand for a text: from stratum 2 on they are an address in dotted decimal
(`referenceAddress_eq`), from which they can be read back (`ofDottedDecimal_dottedDecimal`), and below it they are a
code: what is printable in them without the spaces around it (`referenceCode_eq_shownCode`), which is the code that was
written into them (`referenceCode_of_codeBytes`).
-/

set_option autoImplicit false

namespace Sntp

open Text

namespace Packet

/-- Bytes in decimal, with points between them. -/
def dottedDecimal (bytes : Bytes) : Chars := ['.'].intercalate (bytes.map fun byte => Nat.toDigits 10 byte.toNat)

/-- The bytes that a text in dotted decimal writes. -/
def ofDottedDecimal (text : Chars) : Bytes := (text.splitOn '.').map fun part => UInt8.ofNat (Nat.ofDigitChars 10 part 0)

/-- Bytes are read back from their decimal numbers with dots between them. -/
theorem ofDottedDecimal_dottedDecimal {bytes : Bytes} (h : bytes ≠ []) : ofDottedDecimal (dottedDecimal bytes) = bytes := by
  have hpoint : ∀ part ∈ bytes.map (fun byte => Nat.toDigits 10 byte.toNat), '.' ∉ part := by
    intro part hpart hmem
    obtain ⟨byte, -, rfl⟩ := List.mem_map.mp hpart
    exact absurd (Nat.isDigit_of_mem_toDigits (by decide) (by decide) hmem) (by decide)
  have hbyte : ∀ byte : UInt8, UInt8.ofNat (Nat.ofDigitChars 10 (Nat.toDigits 10 byte.toNat) 0) = byte := by
    intro byte
    rw [Nat.ofDigitChars_toDigits (by decide) (by decide), UInt8.ofNat_toNat]
  unfold ofDottedDecimal dottedDecimal
  rw [List.splitOn_intercalate '.' hpoint (by simpa using h), List.map_map]
  exact (List.map_congr_left fun byte _ => hbyte byte).trans (List.map_id bytes)

/-- The code that bytes show: the printable characters among them, without the spaces around these. -/
def shownCode (bytes : Bytes) : Chars :=
  let printable := (bytes.map fun byte => Char.ofNat byte.toNat).filter fun c => 0x20 ≤ c.toNat && c.toNat ≤ 0x7E
  (printable.dropWhile (· == ' ')).rdropWhile (· == ' ')

/-- Whether a text is a reference code: at most four printable characters, without a space at either end. -/
structure IsCode (code : Chars) : Prop where
  length_le : code.length ≤ 4
  isPrintable : ∀ c ∈ code, 0x20 ≤ c.toNat ∧ c.toNat ≤ 0x7E
  head?_ne : code.head? ≠ some ' '
  getLast?_ne : code.getLast? ≠ some ' '

/-- The reference bytes that write a code, with zeros after it. -/
def codeBytes (code : Chars) : Bytes := code.map (fun c => UInt8.ofNat c.toNat) ++ List.replicate (4 - code.length) 0

variable {packet : Bytes}

/-- The reference is made of the bytes from 12 to 15. -/
theorem bytesFrom_reference (h : 16 ≤ packet.length) :
    (bytesFrom packet 12 4).map UInt8.toNat = [12, 13, 14, 15].map (byteAt packet) := by
  rw [bytesFrom_succ packet (by omega), bytesFrom_succ packet (by omega), bytesFrom_succ packet (by omega),
    bytesFrom_succ packet (by omega)]
  rfl

/-- The reference address is that of the reference bytes. -/
theorem referenceAddress_eq (h : 16 ≤ packet.length) : referenceAddress packet = dottedDecimal (bytesFrom packet 12 4) := by
  have hdigits : (bytesFrom packet 12 4).map (fun byte => Nat.toDigits 10 byte.toNat) =
      [12, 13, 14, 15].map fun position => Number.digitsOf (byteAt packet position) := by
    have hmap := congrArg (List.map (Nat.toDigits 10)) (bytesFrom_reference h)
    rw [List.map_map, List.map_map] at hmap
    exact hmap
  unfold dottedDecimal
  rw [hdigits]
  simp [referenceAddress, List.intercalate]

/-- A printable character is blank only if it is a space. -/
theorem isBlank_of_printable {c : Char} (hlow : 0x20 ≤ c.toNat) (hhigh : c.toNat ≤ 0x7E) : isBlank c = (c == ' ') := by
  rw [Bool.eq_iff_iff, beq_iff_eq, ← Char.toNat_inj]
  show isBlank c = true ↔ c.toNat = 0x20
  simp [isBlank]
  omega

/-- Among printable characters the blanks at the beginning are spaces. -/
theorem dropWhile_isBlank_of_printable {text : Chars} (h : ∀ c ∈ text, 0x20 ≤ c.toNat ∧ c.toNat ≤ 0x7E) :
    text.dropWhile isBlank = text.dropWhile (· == ' ') := by
  induction text with
  | nil => rfl
  | cons c rest ih =>
    obtain ⟨⟨hlow, hhigh⟩, hrest⟩ := List.forall_mem_cons.mp h
    rw [List.dropWhile_cons, List.dropWhile_cons, isBlank_of_printable hlow hhigh, ih hrest]

/-- Without the blanks around it, printable text is without the spaces around it. -/
theorem trim_of_printable {text : Chars} (h : ∀ c ∈ text, 0x20 ≤ c.toNat ∧ c.toNat ≤ 0x7E) :
    trim text = (text.dropWhile (· == ' ')).rdropWhile (· == ' ') := by
  unfold trim trimLeft trimRight List.rdropWhile
  rw [dropWhile_isBlank_of_printable h, dropWhile_isBlank_of_printable]
  exact fun c hmem => h c ((List.dropWhile_suffix _).subset (List.mem_reverse.mp hmem))

/-- The reference code is the one that the reference bytes show. -/
theorem referenceCode_eq_shownCode (h : 16 ≤ packet.length) : referenceCode packet = shownCode (bytesFrom packet 12 4) := by
  have hchars : [12, 13, 14, 15].map (fun position => Char.ofNat (byteAt packet position)) =
      (bytesFrom packet 12 4).map fun byte => Char.ofNat byte.toNat := by
    have hmap := congrArg (List.map Char.ofNat) (bytesFrom_reference h)
    rw [List.map_map, List.map_map] at hmap
    exact hmap.symm
  unfold referenceCode shownCode
  rw [hchars, trim_of_printable fun c hmem => by simpa [Packet.isPrintable] using (List.mem_filter.mp hmem).2]
  rfl

/-- The code that bytes show is the one that was written into them. -/
theorem IsCode.shownCode_codeBytes {code : Chars} (h : IsCode code) : shownCode (codeBytes code) = code := by
  have hpadding : ((List.replicate (4 - code.length) (0 : UInt8)).map fun byte => Char.ofNat byte.toNat).filter
      (fun c => 0x20 ≤ c.toNat && c.toNat ≤ 0x7E) = [] := by
    rw [List.map_replicate, List.filter_eq_nil_iff]
    intro c hmem
    rw [(List.mem_replicate.mp hmem).2]
    decide
  have hcode : (code.map fun c => UInt8.ofNat c.toNat).map (fun byte => Char.ofNat byte.toNat) = code := by
    rw [List.map_map]
    refine (List.map_congr_left fun c hmem => ?_).trans (List.map_id code)
    have hbounds := h.isPrintable c hmem
    show Char.ofNat (UInt8.ofNat c.toNat).toNat = c
    rw [UInt8.toNat_ofNat', Nat.mod_eq_of_lt (by omega), Char.ofNat_toNat]
  have hprintable : code.filter (fun c => 0x20 ≤ c.toNat && c.toNat ≤ 0x7E) = code := by
    rw [List.filter_eq_self]
    intro c hmem
    simpa using h.isPrintable c hmem
  have hblank {c : Char} (hmem : c ∈ code) (hne : c ≠ ' ') : isBlank c = false := by
    obtain ⟨hlow, hhigh⟩ := h.isPrintable c hmem
    rw [isBlank_of_printable hlow hhigh]
    exact beq_eq_false_iff_ne.mpr hne
  unfold shownCode codeBytes
  rw [List.map_append, List.filter_append, hpadding, hcode, List.append_nil, hprintable, ← trim_of_printable h.isPrintable]
  refine trim_eq_self (fun c hfirst => ?_) fun c hlast => ?_
  · exact hblank (List.mem_of_mem_head? hfirst) fun heq => h.head?_ne (heq ▸ hfirst)
  · exact hblank (List.mem_of_mem_getLast? hlast) fun heq => h.getLast?_ne (heq ▸ hlast)

/-- The reference code of bytes that write a code is that code. -/
theorem referenceCode_of_codeBytes (h : 16 ≤ packet.length) {code : Chars} (hcode : IsCode code)
    (hbytes : bytesFrom packet 12 4 = codeBytes code) : referenceCode packet = code := by
  rw [referenceCode_eq_shownCode h, hbytes, hcode.shownCode_codeBytes]

end Packet

end Sntp
