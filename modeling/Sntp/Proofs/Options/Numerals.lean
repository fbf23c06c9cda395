import Sntp.Options.Arguments
import Sntp.Proofs.Number.Digits
import Sntp.Proofs.Text.Trimming

/-!
# Texts that look like a number

A text looks like a number if it is made of digits, with a minus sign before them at most and with blanks
around them at most (`looksNumeric_iff`). Digits are no blanks, so that a sign and digits are what is left of a text
when the blanks around them are taken off (`isTrimmed_of_digits`).
-/

set_option autoImplicit false

namespace Sntp

open Text

/-- Whether a text is made of blanks, at most one minus sign, digits and blanks, in this order. -/
def IsNumeric (text : Chars) : Prop :=
  ∃ before sign digits after, text = before ++ (sign ++ digits) ++ after ∧ (∀ c ∈ before, isBlank c = true) ∧
    (sign = [] ∨ sign = ['-']) ∧ digits ≠ [] ∧ (∀ c ∈ digits, c.isDigit = true) ∧ ∀ c ∈ after, isBlank c = true

namespace Text

/-- A digit is no blank. -/
theorem isBlank_eq_false_of_isDigit {c : Char} (h : c.isDigit = true) : isBlank c = false := by
  have hrange := Number.toNat_bounds_of_isDigit h
  unfold isBlank
  simp
  omega

end Text

/-- A sign and digits with blanks around them are left alone when these are taken off. -/
theorem isTrimmed_of_digits {before sign digits after : Chars} (hbefore : ∀ c ∈ before, isBlank c = true)
    (hsign : ∀ c ∈ sign, isBlank c = false) (hall : ∀ c ∈ digits, c.isDigit = true)
    (hafter : ∀ c ∈ after, isBlank c = true) : IsTrimmed (before ++ (sign ++ digits) ++ after) (sign ++ digits) := by
  have hplain : ∀ c ∈ sign ++ digits, isBlank c = false := by
    intro c hmem
    rcases List.mem_append.mp hmem with hmem | hmem
    · exact hsign c hmem
    · exact isBlank_eq_false_of_isDigit (hall c hmem)
  exact ⟨before, after, rfl, hbefore, hafter, fun c hfirst => hplain c (List.mem_of_mem_head? hfirst),
    fun c hlast => hplain c (List.mem_of_mem_getLast? hlast)⟩

/-- A text looks like a number exactly if it is one with a minus sign at most and with blanks around it at most. -/
theorem looksNumeric_iff (text : Chars) : looksNumeric text = true ↔ IsNumeric text := by
  constructor
  · intro h
    obtain ⟨before, after, htext, hbefore, hafter, -⟩ := isTrimmed_trim text
    unfold looksNumeric at h
    split at h
    case h_1 digits htrim =>
      simp only [List.all_eq_true, decide_eq_true_eq] at h
      rw [htrim] at htext
      exact ⟨before, ['-'], digits, after, htext, hbefore, .inr rfl, h.1, h.2, hafter⟩
    case h_2 digits _ =>
      simp only [List.all_eq_true, decide_eq_true_eq] at h
      exact ⟨before, [], trim text, after, htext, hbefore, .inl rfl, h.1, h.2, hafter⟩
  · rintro ⟨before, sign, digits, after, rfl, hbefore, hsign, hdigits, hall, hafter⟩
    have hplain : ∀ c ∈ sign, isBlank c = false := by
      rcases hsign with rfl | rfl
      · exact nofun
      · exact fun c hmem => List.mem_singleton.mp hmem ▸ rfl
    unfold looksNumeric
    rw [(isTrimmed_of_digits hbefore hplain hall hafter).trim_eq]
    rcases hsign with rfl | rfl
    · split
      case h_1 rest hrest =>
        -- Digits do not begin with a sign.
        have hsign := hall '-' (by rw [List.nil_append] at hrest; simp [hrest])
        exact absurd hsign (by decide)
      case h_2 => simpa using ⟨hdigits, hall⟩
    · simpa using ⟨hdigits, hall⟩

end Sntp
