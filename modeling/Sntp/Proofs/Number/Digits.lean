import Mathlib.Algebra.Group.Nat.Defs
import Sntp.Number.Decimal
import Sntp.Text.Blank

/-!
# Reading digits back

A natural number is read back from its decimal digits (`ofDigitChars_digitsOf`), and so it is with zeros before them
(`ofDigitChars_padZero`). Padded to a width, a number that fits into it takes exactly that many digits (`length_padZero`).
-/

set_option autoImplicit false

namespace Sntp.Number

open Text

/-- A natural number is read back from its digits. -/
theorem ofDigitChars_digitsOf (n : Nat) : Nat.ofDigitChars 10 (digitsOf n) 0 = n := Nat.ofDigitChars_ten_toDigits

/-- The digits have the codes from 48 to 57. -/
theorem toNat_bounds_of_isDigit {c : Char} (h : c.isDigit = true) : 48 ≤ c.toNat ∧ c.toNat ≤ 57 := by
  simpa [Char.isDigit, UInt32.le_iff_toNat_le] using h

/-- The digits of a number are digits. -/
theorem isDigit_of_mem_digitsOf {n : Nat} {c : Char} (h : c ∈ digitsOf n) : c.isDigit = true :=
  Nat.isDigit_of_mem_toDigits (by decide) (by decide) h

/-- Every number has a digit. -/
theorem digitsOf_ne_nil (n : Nat) : digitsOf n ≠ [] := List.ne_nil_of_length_pos Nat.length_toDigits_pos

variable {width n : Nat}

/-- Zeros in front do not change the number that is read back. -/
theorem ofDigitChars_padZero (width n : Nat) : Nat.ofDigitChars 10 (padZero width n) 0 = n := by
  unfold padZero
  rw [Nat.ofDigitChars_append, Nat.ofDigitChars_replicate_zero, Nat.mul_zero]
  exact ofDigitChars_digitsOf n

/-- What a number is padded to consists of digits. -/
theorem isDigit_of_mem_padZero {c : Char} (h : c ∈ padZero width n) : c.isDigit = true := by
  unfold padZero at h
  rcases List.mem_append.mp h with hzero | hdigit
  · rw [List.eq_of_mem_replicate hzero]
    rfl
  · exact isDigit_of_mem_digitsOf hdigit

/-- A number of no more digits than the width is padded to exactly that width. -/
theorem length_padZero (hwidth : 0 < width) (hfits : n < 10 ^ width) : (padZero width n).length = width := by
  have hlength : (digitsOf n).length ≤ width := (Nat.length_toDigits_le_iff (by decide) hwidth).mpr hfits
  unfold padZero
  rw [List.length_append, List.length_replicate]
  omega

/-- Nothing is padded if no digit is missing. -/
theorem padZero_eq_digitsOf (hwidth : 0 < width) (hfills : 10 ^ width ≤ n) : padZero (width + 1) n = digitsOf n := by
  have hlength : width + 1 ≤ (digitsOf n).length := by
    apply Nat.lt_of_not_le
    intro hless
    have hsmall : n < 10 ^ width := (Nat.length_toDigits_le_iff (by decide) hwidth).mp hless
    omega
  unfold padZero
  simp only [Nat.sub_eq_zero_of_le hlength]
  rfl

end Sntp.Number
