import Sntp.Proofs.Number.Reach
import Sntp.Proofs.Options.Numerals

/-!
# Integers that are read

A text writes an integer by digits, with a sign before them at most (`Writes`), and it is read as one in no other
case (`plainInteger?_eq_some_iff`). Doubles reach the integers on both sides of zero up to `Number.firstInfinite`
(`isOutOfRange_iff`). What is read of a text that may be missing, may write no integer or may write one that doubles
do not reach is then said of the text alone (`Reads`, `reads_integerOr`): in all these cases something else stands in
for it.
-/

set_option autoImplicit false

namespace Sntp

open Text

/-- The integer that a sign and digits write. -/
def writtenInteger (sign digits : Chars) : Int :=
  if sign = ['-'] then -(Nat.ofDigitChars 10 digits 0 : Int) else Nat.ofDigitChars 10 digits 0

/-- Whether a text is made of at most one sign and of digits, which write an integer. -/
def Writes (text : Chars) (n : Int) : Prop :=
  ∃ sign digits, text = sign ++ digits ∧ (sign = [] ∨ sign = ['+'] ∨ sign = ['-']) ∧ digits ≠ [] ∧
    (∀ c ∈ digits, c.isDigit = true) ∧ n = writtenInteger sign digits

/-- What is read of a text that may be missing: the integer that it writes, if doubles reach it, and otherwise what
stands in for one. -/
inductive Reads (otherwise : Int) : Option String → Int → Prop
  | missing : Reads otherwise none otherwise
  | written {text : String} {n : Int} (writes : Writes text.toList n) (reached : n.natAbs < Number.firstInfinite) :
    Reads otherwise (some text) n
  | unreadable {text : String} (unreached : ∀ n, Writes text.toList n → Number.firstInfinite ≤ n.natAbs) :
    Reads otherwise (some text) otherwise

/-- Doubles do not reach the integers from `Number.firstInfinite` on, and their opposites. -/
theorem isOutOfRange_iff (n : Int) : isOutOfRange n = true ↔ Number.firstInfinite ≤ n.natAbs := by
  have hfirst := Number.two_pow_le_firstInfinite (k := 0) (by decide)
  unfold isOutOfRange
  rw [beq_iff_eq]
  rcases Int.lt_trichotomy n 0 with hneg | rfl | hpos
  · obtain ⟨k, rfl⟩ : ∃ k : Nat, n = -(k : Int) := ⟨n.natAbs, by omega⟩
    have hk : 0 < k := by omega
    rw [decide_eq_true hneg, Rat.intCast_neg, Rat.intCast_natCast, Int.natAbs_neg, Int.natAbs_natCast,
      Number.round_neg_eq_infinite_iff (Rat.natCast_pos.mpr hk)]
    exact Number.round_eq_infinite_iff hk
  · exact iff_of_false (by decide) (by omega)
  · obtain ⟨k, rfl⟩ : ∃ k : Nat, n = k := ⟨n.natAbs, by omega⟩
    rw [decide_eq_false (by omega), Rat.intCast_natCast, Int.natAbs_natCast]
    exact Number.round_eq_infinite_iff (by omega)

/-- A sign and digits are read as the integer that they write. -/
theorem plainInteger?_written {sign digits : Chars} (hsign : sign = [] ∨ sign = ['+'] ∨ sign = ['-']) (hdigits : digits ≠ [])
    (hall : ∀ c ∈ digits, c.isDigit = true) : plainInteger? (sign ++ digits) = some (writtenInteger sign digits) := by
  have hdigits' : digits ≠ [] ∧ digits.all Char.isDigit = true := ⟨hdigits, List.all_eq_true.mpr hall⟩
  rcases hsign with rfl | rfl | rfl
  · rw [List.nil_append]
    unfold plainInteger?
    split
    rename_i negative rest hcut
    split at hcut
    · exact absurd (hall '-' List.mem_cons_self) (by decide)
    · exact absurd (hall '+' List.mem_cons_self) (by decide)
    · cases hcut
      exact if_pos hdigits'
  · exact if_pos hdigits'
  · exact if_pos hdigits'

/-- Nothing but a sign and digits is read as an integer. -/
theorem plainInteger?_eq_some_iff {text : Chars} {n : Int} : plainInteger? text = some n ↔ Writes text n := by
  constructor
  · intro h
    unfold plainInteger? at h
    split at h
    rename_i negative digits hcut
    rw [Option.ite_none_right_eq_some] at h
    obtain ⟨⟨hdigits, hall⟩, hn⟩ := h
    rw [List.all_eq_true] at hall
    obtain rfl := Option.some.inj hn
    split at hcut
    · cases hcut
      exact ⟨['-'], _, rfl, .inr (.inr rfl), hdigits, hall, rfl⟩
    · cases hcut
      exact ⟨['+'], _, rfl, .inr (.inl rfl), hdigits, hall, rfl⟩
    · cases hcut
      exact ⟨[], _, rfl, .inl rfl, hdigits, hall, rfl⟩
  · rintro ⟨sign, digits, rfl, hsign, hdigits, hall, rfl⟩
    exact plainInteger?_written hsign hdigits hall

/-- A text with a blank in it writes no integer. -/
theorem plainInteger?_of_blank {text : Chars} {c : Char} (hmem : c ∈ text) (hblank : isBlank c = true) :
    plainInteger? text = none := by
  cases hread : plainInteger? text with
  | none => rfl
  | some n =>
    obtain ⟨sign, digits, rfl, hsign, hdigits, hall, -⟩ := plainInteger?_eq_some_iff.mp hread
    rcases List.mem_append.mp hmem with hmem | hmem
    · -- The blank is not the sign.
      rcases hsign with rfl | rfl | rfl
      · cases hmem
      · obtain rfl := List.mem_singleton.mp hmem
        exact absurd hblank (by decide)
      · obtain rfl := List.mem_singleton.mp hmem
        exact absurd hblank (by decide)
    · rw [isBlank_eq_false_of_isDigit (hall c hmem)] at hblank
      cases hblank

/-- What is read of a text, whatever it holds and also if it is missing. -/
theorem reads_integerOr (otherwise : Int) (text? : Option String) :
    Reads otherwise text? (integerOr otherwise (text?.map String.toList)) := by
  cases text? with
  | none => exact .missing
  | some text =>
    unfold integerOr
    rw [Option.map_some, Option.bind_some]
    cases hread : plainInteger? text.toList with
    | none =>
      refine .unreadable fun n hwrites => ?_
      rw [plainInteger?_eq_some_iff.mpr hwrites] at hread
      cases hread
    | some n =>
      have hwrites := plainInteger?_eq_some_iff.mp hread
      by_cases hrange : isOutOfRange n = true
      · simp only [if_pos hrange]
        refine .unreadable fun other hother => ?_
        obtain rfl : n = other := Option.some.inj (hread.symm.trans (plainInteger?_eq_some_iff.mpr hother))
        exact (isOutOfRange_iff n).mp hrange
      · simp only [if_neg hrange]
        exact .written hwrites (by have := mt (isOutOfRange_iff n).mpr hrange; omega)

end Sntp
