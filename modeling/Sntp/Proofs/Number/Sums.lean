import Mathlib.Algebra.Group.Int.Defs
import Sntp.Proofs.Number.Grid
import Sntp.Proofs.Number.Integer

/-!
# Sums and differences of doubles

The sum of two doubles is rounded, and so is their difference (`add`, `sub`). Integers of at most 53 bits are left as they
are (`round_intCast`); among larger integers the unit of the grid is a whole number, and none of them is rounded below
`2 ^ 53`. So the rounded value is a safe integer exactly if the integer itself is one (`safeInteger?_round`), although
sums beyond the safe integers need not be exact.
-/

set_option autoImplicit false

namespace Sntp.Number

/-- The sum of two numbers in double precision; infinities of opposite signs have none. -/
def add : Number → Number → Number
  | .finite a, .finite b => round (a + b)
  | .infinite m, .infinite n => if m = n then .infinite m else .nan
  | .infinite m, .finite _ => .infinite m
  | .finite _, .infinite n => .infinite n
  | .nan, _ => .nan
  | _, .nan => .nan

/-- The difference of two numbers in double precision. -/
def sub (a b : Number) : Number := a.add b.neg

/-- The sum of two integers as doubles is the rounded sum. -/
theorem add_ofInt (m n : Int) : (ofInt m).add (ofInt n) = round ((m + n : Int) : Rat) := by
  rw [Rat.intCast_add]
  rfl

/-- The difference of two integers as doubles is the rounded difference. -/
theorem sub_ofInt (m n : Int) : (ofInt m).sub (ofInt n) = round ((m - n : Int) : Rat) := by
  have hneg : (ofInt n).neg = ofInt (-n) := by
    unfold ofInt neg
    rw [Rat.intCast_neg]
  unfold sub
  rw [hneg, add_ofInt, Int.sub_eq_add_neg]

section Integers

variable {n : Int}

/-- The size of an integer is the same as a rational. -/
theorem abs_intCast (n : Int) : (n : Rat).abs = (n.natAbs : Rat) := by
  have habs := finite.inj (abs_ofInt n)
  rwa [Rat.intCast_natCast] at habs

/-- The unit of the grid of an integer is 52 places below the first bit of its size. -/
theorem gridExponent_intCast (hn : n ≠ 0) : gridExponent (n : Rat) = (n.natAbs.log2 : Int) - 52 := by
  have hpos : 0 < n.natAbs := Int.natAbs_pos.mpr hn
  rw [← gridExponent_natCast hpos]
  unfold gridExponent
  rw [abs_intCast, Rat.abs_of_nonneg Rat.natCast_nonneg]

/-- An integer of at most 53 bits is a double. -/
theorem round_intCast (hbits : n.natAbs < 2 ^ 53) : round (n : Rat) = ofInt n := (isDouble_intCast hbits).round_eq

/-- No larger integer is rounded to a magnitude below `2 ^ 53`. -/
theorem le_onGrid_intCast (hbits : 2 ^ 53 ≤ n.natAbs) :
    ((2 ^ 53 : Int) : Rat) ≤ onGrid (n : Rat) ∨ onGrid (n : Rat) ≤ ((-2 ^ 53 : Int) : Rat) := by
  have hne : n.natAbs ≠ 0 := by omega
  have hlog : 53 ≤ n.natAbs.log2 := (Nat.le_log2 hne).mpr hbits
  obtain ⟨j, hj⟩ : ∃ j, n.natAbs.log2 = 52 + (j + 1) := ⟨n.natAbs.log2 - 53, by omega⟩
  have hunit : twoPow (gridExponent (n : Rat)) = (((2 ^ (j + 1) : Nat) : Int) : Rat) := by
    rw [gridExponent_intCast (Int.natAbs_ne_zero.mp hne), Rat.intCast_natCast, ← twoPow_natCast]
    congr 1
    omega
  -- The leading power of two is a multiple of the unit between zero and the integer.
  have hleading : 2 ^ 52 * 2 ^ (j + 1) ≤ n.natAbs := by
    rw [← Nat.pow_add, ← hj]
    exact Nat.log2_self_le hne
  have hunit₂ : 2 ≤ 2 ^ (j + 1) := Nat.le_self_pow (by omega) 2
  generalize 2 ^ (j + 1) = unit at *
  have hmultiple (k : Int) : (k : Rat) * twoPow (gridExponent (n : Rat)) = ((k * unit : Int) : Rat) := by
    rw [hunit, Rat.intCast_mul]
  rcases Int.le_total 0 n with hsign | hsign
  · have hbelow := mul_unit_le_onGrid (x := n) (k := 2 ^ 52) (by
      rw [hmultiple, Rat.intCast_le_intCast]
      omega)
    rw [hmultiple] at hbelow
    refine .inl (Rat.le_trans (Rat.intCast_le_intCast.mpr ?_) hbelow)
    omega
  · have habove := onGrid_le_mul_unit (x := n) (k := -2 ^ 52) (by
      rw [hmultiple, Rat.intCast_le_intCast]
      omega)
    rw [hmultiple] at habove
    refine .inr (Rat.le_trans habove (Rat.intCast_le_intCast.mpr ?_))
    omega

/-- Rounding takes no other integer to a safe one, and leaves safe ones as they are. -/
theorem safeInteger?_round (n k : Int) : (round (n : Rat)).safeInteger? = some k ↔ n = k ∧ IsSafe n := by
  by_cases hbits : n.natAbs < 2 ^ 53
  · rw [round_intCast hbits, safeInteger?_eq_some_iff, ofInt_inj]
    constructor
    · rintro ⟨rfl, hsafe⟩
      exact ⟨rfl, hsafe⟩
    · rintro ⟨rfl, hsafe⟩
      exact ⟨rfl, hsafe⟩
  · refine iff_of_false (fun h => ?_) (fun h => ?_)
    · obtain ⟨hround, hsafe⟩ := (safeInteger?_eq_some_iff _ _).mp h
      have hne : (n : Rat) ≠ 0 := mt Rat.intCast_eq_zero_iff.mp (by omega)
      rw [round_of_ne_zero hne] at hround
      split at hround
      · cases hround
      · have hk : onGrid (n : Rat) = k := finite.inj hround
        have hlarge := le_onGrid_intCast (Nat.not_lt.mp hbits)
        rw [hk, Rat.intCast_le_intCast, Rat.intCast_le_intCast] at hlarge
        unfold IsSafe safeLimit at hsafe
        omega
    · obtain ⟨-, hsafe⟩ := h
      unfold IsSafe safeLimit at hsafe
      omega

/-- Beyond the safe integers a sum need not be exact. -/
example : (ofInt 9007199254740991).add (ofInt 2) = ofInt 9007199254740992 := by decide +kernel

end Integers

end Sntp.Number
