import Mathlib
import Sntp.Text.Utf8

/-!
# What ASCII tells of a text

Two texts are alike as far as ASCII goes if they have the same ASCII characters, and other ones between them in the same
places, few or many (`AsciiAlike`). What is found in one of them by its ASCII characters alone is found in the
other (`AsciiAlike.exists_word`).

Bytes below 0x80 are read as the characters that they are, wherever they stand, and other bytes as none of these. So the
text that bytes write is alike to their ASCII text (`asciiText`), in which every other byte is a mark of its own
(`asciiAlike_ofUtf8`). A cut through a character changes the first, but not the second.
-/

set_option autoImplicit false

namespace Sntp.Text

/-- Whether a character is an ASCII one. -/
def IsAscii (c : Char) : Prop := c.toNat < 0x80

/-- A part of a text without ASCII characters. -/
structure IsForeignRun (run : Chars) : Prop where
  ne_nil : run ≠ []
  not_isAscii : ∀ c ∈ run, ¬ IsAscii c

/-- Two texts with the same ASCII characters and with other ones in the same places. -/
inductive AsciiAlike : Chars → Chars → Prop
  | nil : AsciiAlike [] []
  | same {c : Char} {text other : Chars} : IsAscii c → AsciiAlike text other → AsciiAlike (c :: text) (c :: other)
  | foreign {run run' text other : Chars} : IsForeignRun run → IsForeignRun run' → AsciiAlike text other →
      AsciiAlike (run ++ text) (run' ++ other)

namespace AsciiAlike

variable {text other : Chars}

/-- Two texts are alike in either order. -/
@[symm] theorem symm (h : AsciiAlike text other) : AsciiAlike other text := by
  induction h with
  | nil => exact nil
  | same hc _ ih => exact same hc ih
  | foreign hrun hrun' _ ih => exact foreign hrun' hrun ih

/-- Only the empty text is like the empty text. -/
theorem eq_nil (h : AsciiAlike [] other) : other = [] := by
  generalize hnil : ([] : Chars) = empty at h
  cases h with
  | nil => rfl
  | same hc h => cases hnil
  | foreign hrun hrun' h => exact absurd (List.append_eq_nil_iff.mp hnil.symm).1 hrun.ne_nil

/-- An ASCII character stands in both texts, with texts alike before and after it. -/
theorem exists_append_cons {front rest : Chars} {c : Char} (hc : IsAscii c) (h : AsciiAlike (front ++ c :: rest) other) :
    ∃ front' rest', other = front' ++ c :: rest' ∧ AsciiAlike front front' ∧ AsciiAlike rest rest' := by
  generalize htext : front ++ c :: rest = text at h
  induction h generalizing front with
  | nil => simp at htext
  | @same first text other hfirst h ih =>
    cases front with
    | nil =>
      obtain ⟨rfl, rfl⟩ := List.cons.inj htext
      exact ⟨[], other, rfl, nil, h⟩
    | cons first' front =>
      obtain ⟨rfl, hrest⟩ := List.cons.inj htext
      obtain ⟨front', rest', rfl, hfront, hrest'⟩ := ih hrest
      exact ⟨first' :: front', rest', rfl, same hfirst hfront, hrest'⟩
  | @foreign run run' text other hrun hrun' h ih =>
    -- The run ends before the character.
    rcases List.append_eq_append_iff.mp htext with ⟨later, hwhole, hlater⟩ | ⟨later, rfl, hrest⟩
    · cases later with
      | nil =>
        obtain ⟨front', rest', rfl, hfront, hrest'⟩ := @ih [] hlater
        obtain rfl := hfront.eq_nil
        rw [List.append_nil] at hwhole
        have hboth := foreign hrun hrun' nil
        rw [hwhole, List.append_nil, List.append_nil] at hboth
        exact ⟨run', rest', rfl, hboth, hrest'⟩
      | cons first later =>
        obtain ⟨rfl, -⟩ := List.cons.inj hlater
        exact absurd hc (hrun.not_isAscii c (hwhole ▸ by simp))
    · obtain ⟨front', rest', rfl, hfront, hrest'⟩ := ih hrest.symm
      exact ⟨run' ++ front', rest', by rw [List.append_assoc], foreign hrun hrun' hfront, hrest'⟩

/-- So does a word of ASCII characters that the text begins with. -/
theorem exists_append {word rest : Chars} (hword : ∀ c ∈ word, IsAscii c) (h : AsciiAlike (word ++ rest) other) :
    ∃ rest', other = word ++ rest' ∧ AsciiAlike rest rest' := by
  induction word generalizing other with
  | nil => exact ⟨other, rfl, h⟩
  | cons c word ih =>
    obtain ⟨hc, hrest⟩ := List.forall_mem_cons.mp hword
    obtain ⟨front', later, rfl, hfront, hlater⟩ := @exists_append_cons _ [] _ _ hc h
    obtain rfl := hfront.eq_nil
    obtain ⟨rest', rfl, hrest'⟩ := ih hrest hlater
    exact ⟨rest', rfl, hrest'⟩

/-- So does one anywhere in it. -/
theorem exists_word {front word back : Chars} (hne : word ≠ []) (hword : ∀ c ∈ word, IsAscii c)
    (h : AsciiAlike (front ++ word ++ back) other) :
    ∃ front' back', other = front' ++ word ++ back' ∧ AsciiAlike front front' ∧ AsciiAlike back back' := by
  obtain ⟨c, word, rfl⟩ := List.exists_cons_of_ne_nil hne
  obtain ⟨hc, hrest⟩ := List.forall_mem_cons.mp hword
  rw [List.append_assoc] at h
  obtain ⟨front', later, rfl, hfront, hlater⟩ := exists_append_cons hc h
  obtain ⟨back', rfl, hback⟩ := exists_append hrest hlater
  exact ⟨front', back', by simp, hfront, hback⟩

end AsciiAlike

section Reading

/-- The text that bytes write as far as ASCII goes: every byte that is not ASCII is a mark of its own. -/
def asciiText (bytes : Bytes) : Chars :=
  bytes.map fun byte => if byte.toNat < 0x80 then Char.ofNat byte.toNat else replacement

/-- A character outside ASCII is a run of such characters. -/
theorem isForeignRun_singleton {c : Char} (h : ¬ IsAscii c) : IsForeignRun [c] :=
  ⟨by simp, by simpa using h⟩

/-- The codes below 128 are those of ASCII. -/
theorem isAscii_ofNat {n : Nat} (h : n < 0x80) : IsAscii (Char.ofNat n) := by
  have hcharacter : n.isValidChar := .inl (by omega)
  unfold IsAscii
  rwa [Char.toNat_ofNat, if_pos hcharacter]

/-- The replacement character is outside ASCII. -/
theorem not_isAscii_replacement : ¬ IsAscii replacement := by
  unfold IsAscii
  decide

/-- Whether numbers of characters, with `share` of them for each value from `least` to `most`, are those of characters
that are not ASCII: none is a surrogate or past the last one. -/
structure AreForeign (share least most : Nat) : Prop where
  foreign : 0x80 ≤ least * share
  valid : (most + 1) * share ≤ 0xD800 ∨ (0xE000 ≤ least * share ∧ (most + 1) * share ≤ 0x110000)

/-- The codes that are left for a character stay outside ASCII when another byte narrows them. -/
theorem AreForeign.next {share least most bits : Nat} (h : AreForeign (64 * share) least most) (hleast : least ≤ bits)
    (hmost : bits ≤ most) : AreForeign share (64 * bits) (64 * bits + 63) := by
  obtain ⟨hforeign, hvalid⟩ := h
  have hlow : least * (64 * share) ≤ 64 * bits * share := by
    rw [Nat.mul_comm 64 bits, Nat.mul_assoc]
    exact Nat.mul_le_mul_right _ hleast
  have hhigh : (64 * bits + 63 + 1) * share ≤ (most + 1) * (64 * share) := by
    rw [Nat.add_assoc, ← Nat.mul_succ, Nat.mul_comm 64, Nat.mul_assoc]
    exact Nat.mul_le_mul_right _ (Nat.succ_le_succ hmost)
  exact ⟨Nat.le_trans hforeign hlow, by omega⟩

/-- A character is outside ASCII if all codes that were left for it are. -/
theorem AreForeign.not_isAscii {least most n : Nat} (h : AreForeign 1 least most) (hleast : least ≤ n) (hmost : n ≤ most) :
    ¬ IsAscii (Char.ofNat n) := by
  obtain ⟨hforeign, hvalid⟩ := h
  have hcharacter : n.isValidChar := by
    unfold Nat.isValidChar
    omega
  unfold IsAscii
  rw [Char.toNat_ofNat, if_pos hcharacter]
  omega

/-- Whether an open character becomes a character that is not ASCII, whatever bytes follow. -/
structure OpenCharacter.IsForeign (c : OpenCharacter) : Prop where
  low : 0x80 ≤ c.low
  high : c.high ≤ 0xBF
  numbers : ∃ share, (c.missing, share) ∈ [(1, 1), (2, 64), (3, 64 * 64)] ∧
    AreForeign share (64 * c.bits + (c.low - 0x80)) (64 * c.bits + (c.high - 0x80))

/-- A byte that begins a character is that character, or it opens one that is not ASCII, or stands for none. -/
theorem firstByte_cases (b : Nat) :
    (b < 0x80 ∧ firstByte b = ([Char.ofNat b], none)) ∨
      (0x80 ≤ b ∧ ((∃ c, firstByte b = ([], some c) ∧ c.IsForeign) ∨ firstByte b = ([replacement], none))) := by
  have hforeign {missing share low high bits : Nat} (hlow : 0x80 ≤ low) (hhigh : high ≤ 0xBF)
      (hshare : (missing, share) ∈ [(1, 1), (2, 64), (3, 64 * 64)])
      (h : AreForeign share (64 * bits + (low - 0x80)) (64 * bits + (high - 0x80))) :
      ∃ c, (([], some ⟨missing, low, high, bits⟩) : Chars × Option OpenCharacter) = ([], some c) ∧ c.IsForeign :=
    ⟨_, rfl, hlow, hhigh, share, hshare, h⟩
  by_cases hascii : b < 0x80
  · exact .inl ⟨hascii, by simp [firstByte, hascii]⟩
  · refine .inr ⟨Nat.le_of_not_lt hascii, ?_⟩
    unfold firstByte
    rw [if_neg hascii]
    repeat' split
    all_goals first | exact .inr rfl | refine .inl (hforeign (by simp) (by simp) (by simp; rfl) ?_)
    all_goals constructor <;> simp <;> omega

/-- A byte in the range of an open character ends it with a character that is not ASCII, or leaves it open. Any other
byte leaves the character broken off and begins anew. -/
theorem nextByte_cases {c : OpenCharacter} (h : c.IsForeign) (b : Nat) :
    (0x80 ≤ b ∧ ((∃ read, nextByte (some c) b = ([read], none) ∧ ¬ IsAscii read) ∨
        ∃ opened, nextByte (some c) b = ([], some opened) ∧ opened.IsForeign)) ∨
      nextByte (some c) b = (replacement :: (firstByte b).1, (firstByte b).2) := by
  obtain ⟨hlow, hhigh, share, hshare, hnumbers⟩ := h
  by_cases hrange : c.low ≤ b ∧ b ≤ c.high
  · have hleast : 64 * c.bits + (c.low - 0x80) ≤ 64 * c.bits + (b - 0x80) := by omega
    have hmost : 64 * c.bits + (b - 0x80) ≤ 64 * c.bits + (c.high - 0x80) := by omega
    refine .inl ⟨Nat.le_trans hlow hrange.1, ?_⟩
    unfold nextByte
    simp only [if_pos hrange]
    obtain ⟨missing, low, high, bits⟩ := c
    simp only [List.mem_cons, Prod.mk.injEq, List.not_mem_nil, or_false] at hshare hleast hmost hnumbers ⊢
    rcases hshare with ⟨rfl, rfl⟩ | ⟨rfl, rfl⟩ | ⟨rfl, rfl⟩
    · exact .inl ⟨_, rfl, hnumbers.not_isAscii hleast hmost⟩
    · exact .inr ⟨_, rfl, Nat.le_refl _, Nat.le_refl _, 1, by simp, by simpa using hnumbers.next hleast hmost⟩
    · exact .inr ⟨_, rfl, Nat.le_refl _, Nat.le_refl _, 64, by simp, by simpa using hnumbers.next hleast hmost⟩
  · refine .inr ?_
    unfold nextByte
    simp only [if_neg hrange]

/-- A text is read byte by byte. -/
theorem readUtf8_cons (character : Option OpenCharacter) (byte : UInt8) (rest : Bytes) :
    readUtf8 character (byte :: rest) =
      (nextByte character byte.toNat).1 ++ readUtf8 (nextByte character byte.toNat).2 rest := by
  cases character <;> rfl

/-- A byte of ASCII stands for itself, and every other one is replaced. -/
theorem asciiText_cons (byte : UInt8) (rest : Bytes) :
    asciiText (byte :: rest) =
      (if byte.toNat < 0x80 then Char.ofNat byte.toNat else replacement) :: asciiText rest := rfl

/-- Whether marks stand for the bytes of an open character that were read; without one there are none. -/
def AreMarksOf (character : Option OpenCharacter) (marks : Chars) : Prop :=
  match character with
  | none => marks = []
  | some c => c.IsForeign ∧ IsForeignRun marks

/-- A run of characters outside ASCII may be longer by a replacement character. -/
theorem isForeignRun_append_replacement {marks : Chars} (h : IsForeignRun marks) :
    IsForeignRun (marks ++ [replacement]) := by
  refine ⟨by simp, fun c hmem => ?_⟩
  rcases List.mem_append.mp hmem with hmarks | hlast
  · exact h.not_isAscii c hmarks
  · obtain rfl := List.mem_singleton.mp hlast
    exact not_isAscii_replacement

/-- Bytes are read as their ASCII text tells, after the marks of an open character. -/
theorem asciiAlike_readUtf8 {character : Option OpenCharacter} {marks : Chars} (h : AreMarksOf character marks)
    (bytes : Bytes) : AsciiAlike (readUtf8 character bytes) (marks ++ asciiText bytes) := by
  have hmark := isForeignRun_singleton not_isAscii_replacement
  -- The marks stand for the bytes of the character that is open, which may still turn out to be ill-formed.
  induction bytes generalizing character marks with
  | nil =>
    cases character with
    | none =>
      obtain rfl : marks = [] := h
      exact .nil
    | some c => exact .foreign hmark h.2 .nil
  | cons byte rest ih =>
    have hrest : AsciiAlike (readUtf8 none rest) (asciiText rest) := @ih none [] rfl
    have hfirst : AsciiAlike (readUtf8 none (byte :: rest)) (asciiText (byte :: rest)) := by
      rw [readUtf8_cons, asciiText_cons]
      rcases firstByte_cases byte.toNat with ⟨hascii, hread⟩ | ⟨hforeign, ⟨c, hread, hc⟩ | hread⟩
      · rw [nextByte, hread, if_pos hascii]
        exact .same (isAscii_ofNat hascii) hrest
      · rw [nextByte, hread, if_neg (Nat.not_lt.mpr hforeign)]
        exact @ih (some c) [replacement] ⟨hc, hmark⟩
      · rw [nextByte, hread, if_neg (Nat.not_lt.mpr hforeign)]
        exact .foreign hmark hmark hrest
    cases character with
    | none =>
      obtain rfl : marks = [] := h
      exact hfirst
    | some c =>
      obtain ⟨hc, hmarks⟩ := h
      rw [readUtf8_cons]
      rcases nextByte_cases hc byte.toNat with ⟨hforeign, ⟨read, hread, hreadForeign⟩ | ⟨opened, hread, hopened⟩⟩ | hread
      · rw [hread, asciiText_cons, if_neg (Nat.not_lt.mpr hforeign), List.append_cons]
        exact .foreign (isForeignRun_singleton hreadForeign) (isForeignRun_append_replacement hmarks) hrest
      · rw [hread, asciiText_cons, if_neg (Nat.not_lt.mpr hforeign), List.append_cons]
        exact ih ⟨hopened, isForeignRun_append_replacement hmarks⟩
      · -- The open character is given up, and the byte is read anew.
        have hanew : readUtf8 none (byte :: rest) = (firstByte byte.toNat).1 ++ readUtf8 (firstByte byte.toNat).2 rest :=
          readUtf8_cons none byte rest
        rw [hread, List.cons_append, ← hanew]
        exact .foreign hmark hmarks hfirst

/-- The text that bytes write is alike to their ASCII text. -/
theorem asciiAlike_ofUtf8 (bytes : Bytes) : AsciiAlike (ofUtf8 bytes) (asciiText bytes) :=
  @asciiAlike_readUtf8 none [] rfl bytes

end Reading

end Sntp.Text
