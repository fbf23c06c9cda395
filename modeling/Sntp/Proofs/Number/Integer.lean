import Sntp.Number.Rounding

/-!
# Numbers that are integers

On integers the operations of `Number` are those of `Int`: the order (`lt_ofInt`), the absolute value
(`abs_ofInt`) and the half whose fraction is dropped (`halfTruncated_ofInt`). A number is a safe integer
exactly if it is an integer of safe magnitude (`safeInteger?_eq_some_iff`).
-/

set_option autoImplicit false

namespace Sntp.Number

/-- Integers are compared as numbers as they are. -/
@[simp] theorem lt_ofInt (a b : Int) : (ofInt a).lt (ofInt b) = decide (a < b) := by
  unfold ofInt lt
  simp only [Rat.intCast_lt_intCast]

/-- Integers are the same numbers only if they are the same. -/
theorem ofInt_inj {a b : Int} : ofInt a = ofInt b ↔ a = b := by
  simp [ofInt]

/-- The size of an integer is the same as a number. -/
@[simp] theorem abs_ofInt (a : Int) : (ofInt a).abs = ofInt a.natAbs := by
  simp only [ofInt, abs, finite.injEq]
  rcases Int.le_total 0 a with h | h
  · rw [Rat.abs_of_nonneg (Rat.intCast_le_intCast.mpr h), Int.natAbs_of_nonneg h]
  · rw [Rat.abs_of_nonpos (Rat.intCast_le_intCast.mpr h), Int.ofNat_natAbs_of_nonpos h, Rat.intCast_neg]

/-- The nearest integer is the one that a number is less than half of one away from, or half of one below. -/
theorem nearestUp_eq_iff (q : Rat) (n : Int) : nearestUp q = n ↔ n ≤ q + mkRat 1 2 ∧ q + mkRat 1 2 < n + 1 := by
  have hfloor : nearestUp q = n ↔ n ≤ nearestUp q ∧ nearestUp q < n + 1 := by omega
  rw [hfloor]
  unfold nearestUp
  rw [Rat.le_floor_iff, Rat.floor_lt_iff, Rat.intCast_add]
  rfl

/-- The nearest integer to an integer is that integer. -/
theorem nearestUp_intCast (n : Int) : nearestUp n = n := by
  have hhalf : (n : Rat) + 0 ≤ n + mkRat 1 2 := Rat.add_le_add_left.mpr (by decide)
  rw [Rat.add_zero] at hhalf
  exact (nearestUp_eq_iff n n).mpr ⟨hhalf, Rat.add_lt_add_left.mpr (by decide)⟩

/-- The integer part of a fraction does not depend on how the fraction is written. -/
theorem wholePart_mkRat (n : Int) {d : Nat} (hd : d ≠ 0) : wholePart (mkRat n d) = n.tdiv d := by
  generalize hq : mkRat n d = q
  obtain ⟨num, den, hden, hreduced⟩ := q
  obtain ⟨g, hg, rfl, rfl⟩ := Rat.mkRat_num_den hd hq
  have hpos : (0 : Int) < g := by omega
  simp only [wholePart, Int.natCast_mul]
  rw [Int.mul_tdiv_mul_of_pos_left _ _ hpos]

/-- Half of an integer, truncated, is the quotient toward zero. -/
@[simp] theorem halfTruncated_ofInt (n : Int) : (ofInt n).halfTruncated = ofInt (n.tdiv 2) := by
  have hhalf : (n : Rat) / 2 = mkRat n 2 := (Rat.mkRat_eq_div n 2).symm
  simp only [ofInt, halfTruncated, hhalf]
  rw [wholePart_mkRat n (by decide)]
  rfl

/-- The safe integer that a number is. -/
theorem safeInteger?_eq_some_iff (x : Number) (n : Int) : x.safeInteger? = some n ↔ x = ofInt n ∧ IsSafe n := by
  cases x with
  | nan => simp [safeInteger?, ofInt]
  | infinite negative => simp [safeInteger?, ofInt]
  | finite q =>
    simp only [safeInteger?, ofInt, finite.injEq]
    constructor
    · intro h
      by_cases hq : q.den = 1 ∧ IsSafe q.num
      · rw [if_pos hq] at h
        obtain rfl := Option.some.inj h
        exact ⟨Rat.ext rfl hq.1, hq.2⟩
      · rw [if_neg hq] at h
        cases h
    · rintro ⟨rfl, hsafe⟩
      simp [hsafe]

end Sntp.Number
