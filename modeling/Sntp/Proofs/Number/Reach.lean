import Mathlib.Algebra.Order.GroupWithZero.Basic
import Mathlib.Algebra.Order.Ring.Rat
import Sntp.Number.Rounding

/-!
# How far doubles reach

Rounding takes a number to the nearest one on a grid (`onGrid`), where an even multiple of the grid's unit is
reached from half a unit below it on (`even_mul_le_onGrid_iff`). The grid of the largest doubles ends at `2 ^ 1024`, so
that integers become infinite from half a unit below that on (`round_eq_infinite_iff`).
-/

set_option autoImplicit false

namespace Sntp.Number

/-- The least integer that is no nearer to the largest double than to `2 ^ 1024`. -/
def firstInfinite : Nat := 2 ^ 1024 - 2 ^ 970

/-- The powers of two that doubles reach are below the first natural number that is rounded to infinity. -/
theorem two_pow_le_firstInfinite {k : Nat} (hk : k ≤ 1023) : 2 ^ k ≤ firstInfinite := by
  have hpow (j m top : Nat) (hj : j ≤ m) (hkm : k ≤ m) (htop : top = m + 1) : 2 ^ k ≤ 2 ^ top - 2 ^ j := by
    have htwice : 2 ^ top = 2 * 2 ^ m := htop ▸ Nat.pow_succ'
    have hk : 2 ^ k ≤ 2 ^ m := Nat.pow_le_pow_right (by decide) hkm
    have hj : 2 ^ j ≤ 2 ^ m := Nat.pow_le_pow_right (by decide) hj
    omega
  unfold firstInfinite
  exact hpow 970 1023 1024 (by decide) hk rfl

/-- One half, as the fraction that it is. -/
theorem mkRat_half : mkRat 1 2 = 1 / 2 := Rat.mkRat_eq_div 1 2

/-- Rounding to an integer adds one half at most. -/
theorem nearestEven_le (q : Rat) : (nearestEven q : Rat) ≤ q + 1 / 2 := by
  have hlow := Rat.floor_le q
  unfold nearestEven
  simp only [mkRat_half]
  generalize q.floor = down at *
  have hsucc : ((down + 1 : Int) : Rat) = down + 1 := by simp
  split
  case isTrue => grind
  case isFalse =>
    split
    · grind
    · split <;> grind

/-- The nearest integer is an even one, or more, from a half below that on. -/
theorem le_nearestEven_iff {even : Int} (heven : even % 2 = 0) (q : Rat) :
    even ≤ nearestEven q ↔ (even : Rat) - 1 / 2 ≤ q := by
  have hlow := Rat.floor_le q
  have hhigh : q - 1 < (q.floor : Rat) := Rat.lt_floor
  unfold nearestEven
  simp only [mkRat_half]
  generalize q.floor = down at *
  obtain hless | rfl | hmore : even ≤ down ∨ even = down + 1 ∨ down + 1 < even := by omega
  · have hcast : (even : Rat) ≤ down := Rat.intCast_le_intCast.mpr hless
    refine iff_of_true ?_ (by grind)
    split
    · exact hless
    · split
      · omega
      · split <;> omega
  · -- The integer below is odd, so that a tie goes up.
    have hsucc : ((down + 1 : Int) : Rat) = down + 1 := by simp
    have hodd : ¬ down % 2 = 0 := by omega
    rw [hsucc]
    split
    · exact iff_of_false (by omega) (by grind)
    · refine iff_of_true ?_ (by grind)
      split
      · exact Int.le_refl _
      · exact Int.le_refl _
  · have hsucc : ((down + 2 : Int) : Rat) = down + 2 := by simp
    have hcast : ((down + 2 : Int) : Rat) ≤ even := Rat.intCast_le_intCast.mpr (by omega)
    refine iff_of_false (fun h => ?_) (by grind)
    split at h
    · omega
    · split at h
      · omega
      · split at h <;> omega

/-- Numbers that are opposite have nearest integers that are opposite. -/
theorem nearestEven_neg (q : Rat) : nearestEven (-q) = -nearestEven q := by
  have hlow := Rat.floor_le q
  have hhigh := Rat.lt_floor_add_one q
  have hlow' := Rat.floor_le (-q)
  have hhigh' := Rat.lt_floor_add_one (-q)
  unfold nearestEven
  simp only [mkRat_half]
  generalize q.floor = down at *
  generalize (-q).floor = below at *
  by_cases hwhole : q = down
  · subst hwhole
    have hbelow : below = -down := by
      have hle : (below : Rat) ≤ (-down : Int) := by rwa [Rat.intCast_neg]
      have hlt : ((-down : Int) : Rat) < (below + 1 : Int) := by rw [Rat.intCast_neg]; simpa using hhigh'
      have := Rat.intCast_le_intCast.mp hle
      have := Rat.intCast_lt_intCast.mp hlt
      omega
    subst hbelow
    grind
  · have hbelow : below = -down - 1 := by
      have hlt : (below : Rat) < (-down : Int) := by rw [Rat.intCast_neg]; grind
      have hgt : ((-down - 2 : Int) : Rat) < (below : Int) := by simp; grind
      have := Rat.intCast_lt_intCast.mp hlt
      have := Rat.intCast_lt_intCast.mp hgt
      omega
    subst hbelow
    have hcast : ((-down - 1 : Int) : Rat) = -(down : Rat) - 1 := by simp
    rw [hcast]
    grind

/-- The powers of two with natural exponents are natural numbers. -/
theorem twoPow_natCast (k : Nat) : twoPow (k : Int) = ((2 ^ k : Nat) : Rat) := rfl

/-- The powers of two are those of the library. -/
theorem twoPow_eq_zpow (e : Int) : twoPow e = (2 : Rat) ^ e := by
  cases e with
  | ofNat k =>
    rw [Int.ofNat_eq_natCast, Rat.zpow_natCast]
    exact Rat.natCast_pow 2 k
  | negSucc k =>
    rw [Int.negSucc_eq, Rat.zpow_neg, ← Int.natCast_add_one, Rat.zpow_natCast]
    show mkRat 1 (2 ^ (k + 1)) = _
    rw [Rat.mkRat_eq_div, Rat.div_def, Rat.natCast_pow]
    exact Rat.one_mul _

/-- A power of two is positive. -/
theorem twoPow_pos (e : Int) : 0 < twoPow e := by
  rw [twoPow_eq_zpow]
  exact Rat.zpow_pos (by decide)

/-- Powers of two are multiplied by adding their exponents. -/
theorem twoPow_add (a b : Int) : twoPow (a + b) = twoPow a * twoPow b := by
  rw [twoPow_eq_zpow, twoPow_eq_zpow, twoPow_eq_zpow, Rat.zpow_add (by decide)]

/-- Powers of two are in the strict order of their exponents. -/
theorem twoPow_lt_iff {a b : Int} : twoPow a < twoPow b ↔ a < b := by
  rw [twoPow_eq_zpow, twoPow_eq_zpow, zpow_lt_zpow_iff_right₀ (by decide)]

/-- Powers of two are in the order of their exponents. -/
theorem twoPow_le_iff {a b : Int} : twoPow a ≤ twoPow b ↔ a ≤ b := by
  rw [twoPow_eq_zpow, twoPow_eq_zpow, zpow_le_zpow_iff_right₀ (by decide)]

/-- The binary logarithm of a natural number is the same as a rational. -/
theorem floorLog2_natCast {n : Nat} (hn : 0 < n) : floorLog2 (n : Rat) = n.log2 := by
  unfold floorLog2
  have hlog : ((n : Rat).num.natAbs.log2 : Int) - ((n : Rat).den.log2 : Int) = n.log2 := by
    rw [Rat.num_natCast, Rat.den_natCast, Int.natAbs_natCast, show Nat.log2 1 = 0 by decide]
    exact Int.sub_zero _
  simp only [hlog]
  exact if_pos (Rat.natCast_le_natCast.mpr (Nat.log2_self_le (by omega)))

/-- The nearest number on the grid of doubles around a number, however large. -/
def onGrid (x : Rat) : Rat := nearestEven (x / twoPow (gridExponent x)) * twoPow (gridExponent x)

/-- Rounding adds half a unit at most. -/
theorem onGrid_le (x : Rat) : onGrid x ≤ x + twoPow (gridExponent x) / 2 := by
  have hunit := twoPow_pos (gridExponent x)
  have hrounded := Rat.mul_le_mul_of_nonneg_right (nearestEven_le (x / twoPow (gridExponent x))) (Rat.le_of_lt hunit)
  unfold onGrid
  generalize twoPow (gridExponent x) = unit at *
  have hx : (x / unit + 1 / 2) * unit = x + unit / 2 := by grind
  rwa [hx] at hrounded

/-- Numbers that are opposite lie on one grid, on opposite sides of zero. -/
theorem onGrid_neg (x : Rat) : onGrid (-x) = -onGrid x := by
  have hgrid : gridExponent (-x) = gridExponent x := by
    unfold gridExponent
    rw [Rat.abs_neg]
  have hscaled : -x / twoPow (gridExponent x) = -(x / twoPow (gridExponent x)) := by grind
  unfold onGrid
  rw [hgrid, hscaled, nearestEven_neg, Rat.intCast_neg, Rat.neg_mul]

/-- On the grid a number is an even multiple of the unit, or more, from half a unit below that on. -/
theorem even_mul_le_onGrid_iff (even : Nat) (heven : even % 2 = 0) (x : Rat) :
    (even : Rat) * twoPow (gridExponent x) ≤ onGrid x ↔
      even * twoPow (gridExponent x) - twoPow (gridExponent x) / 2 ≤ x := by
  have hunit := twoPow_pos (gridExponent x)
  unfold onGrid
  generalize twoPow (gridExponent x) = unit at *
  have hscale (a b : Rat) : a * unit ≤ b * unit ↔ a ≤ b :=
    ⟨fun h => Rat.le_of_mul_le_mul_right h hunit, fun h => Rat.mul_le_mul_of_nonneg_right h (Rat.le_of_lt hunit)⟩
  have hx : x / unit * unit = x := by grind
  have hshift : ((even : Rat) - 1 / 2) * unit = even * unit - unit / 2 := by grind
  calc (even : Rat) * unit ≤ (nearestEven (x / unit) : Rat) * unit
      ↔ (even : Rat) ≤ (nearestEven (x / unit) : Rat) := hscale _ _
    _ ↔ (even : Int) ≤ nearestEven (x / unit) := by rw [← Rat.intCast_le_intCast, Rat.intCast_natCast]
    _ ↔ (even : Rat) - 1 / 2 ≤ x / unit := by rw [le_nearestEven_iff (by omega), Rat.intCast_natCast]
    _ ↔ ((even : Rat) - 1 / 2) * unit ≤ x / unit * unit := (hscale _ _).symm
    _ ↔ even * unit - unit / 2 ≤ x := by rw [hx, hshift]

/-- A positive rational is not rounded below zero. -/
theorem onGrid_nonneg {x : Rat} (hx : 0 < x) : 0 ≤ onGrid x := by
  have hunit := twoPow_pos (gridExponent x)
  have hleast := (even_mul_le_onGrid_iff 0 rfl x).mpr (by grind)
  grind

/-- A positive rational is rounded to infinity exactly if its point of the grid reaches the largest power of two. -/
theorem round_eq_infinite_iff_onGrid {x : Rat} (hx : 0 < x) : round x = .infinite false ↔ twoPow 1024 ≤ onGrid x := by
  have hzero : ¬ x = 0 := by grind
  have hneg : ¬ x < 0 := by grind
  unfold round
  simp only [if_neg hzero, hneg, decide_false]
  show (if twoPow 1024 ≤ (onGrid x).abs then _ else _) = _ ↔ _
  rw [Rat.abs_of_nonneg (onGrid_nonneg hx)]
  split <;> simp_all

/-- Rounding takes a negative number to the infinity below exactly if it takes its opposite to the one above. -/
theorem round_neg_eq_infinite_iff {x : Rat} (hx : 0 < x) : round (-x) = .infinite true ↔ round x = .infinite false := by
  have hzero : ¬ -x = 0 := by grind
  have hneg : -x < 0 := by grind
  rw [round_eq_infinite_iff_onGrid hx]
  unfold round
  simp only [if_neg hzero, hneg, decide_true]
  show (if twoPow 1024 ≤ (onGrid (-x)).abs then _ else _) = _ ↔ _
  rw [onGrid_neg, Rat.abs_neg, Rat.abs_of_nonneg (onGrid_nonneg hx)]
  split <;> simp_all

section Integers

variable {n : Nat}

/-- The unit of the grid of a natural number is 52 places below its first bit. -/
theorem gridExponent_natCast (hn : 0 < n) : gridExponent (n : Rat) = (n.log2 : Int) - 52 := by
  unfold gridExponent
  rw [Rat.abs_of_nonneg Rat.natCast_nonneg, floorLog2_natCast hn]
  omega

/-- A natural number is rounded to less than twice itself. -/
theorem onGrid_lt_two_mul (hn : 0 < n) : onGrid (n : Rat) < 2 * n := by
  have hpos : (0 : Rat) < n := Rat.natCast_pos.mpr hn
  have hbound := onGrid_le (n : Rat)
  have hunit : twoPow ((n.log2 : Int) - 52) ≤ twoPow n.log2 := twoPow_le_iff.mpr (by omega)
  have hlow : ((2 ^ n.log2 : Nat) : Rat) ≤ n := Rat.natCast_le_natCast.mpr (Nat.log2_self_le (by omega))
  rw [gridExponent_natCast hn] at hbound
  rw [twoPow_natCast] at hunit
  grind

/-- The grid around an integer that needs more than 53 bits has a whole number as its unit. -/
theorem even_mul_two_pow_le_onGrid_iff (hn : 0 < n) {k : Nat} (hlog : n.log2 = k + 52) (even : Nat)
    (heven : even % 2 = 0) :
    ((even * 2 ^ k : Nat) : Rat) ≤ onGrid n ↔ ((even * 2 ^ k : Nat) : Rat) - ((2 ^ k : Nat) : Rat) / 2 ≤ n := by
  have hunit : twoPow (gridExponent (n : Rat)) = ((2 ^ k : Nat) : Rat) := by
    rw [gridExponent_natCast hn, ← twoPow_natCast]
    congr 1
    omega
  have hiff := even_mul_le_onGrid_iff even heven (n : Rat)
  rw [hunit] at hiff
  rwa [Rat.natCast_mul]

/-- An integer reaches a power of two on the grid from half the unit of the grid below that power on. -/
theorem two_pow_le_onGrid_iff (hn : 0 < n) (k : Nat) :
    ((2 ^ (k + 54) : Nat) : Rat) ≤ onGrid n ↔ 2 ^ (k + 54) ≤ n + 2 ^ k := by
  have hlow : 2 ^ n.log2 ≤ n := Nat.log2_self_le (by omega)
  have hhigh : n < 2 ^ (n.log2 + 1) := Nat.lt_log2_self
  -- Only from the binade below the power can rounding reach it and not be past it already.
  obtain hsmall | hlast | hlarge : n.log2 < k + 53 ∨ n.log2 = k + 53 ∨ k + 53 < n.log2 := by omega
  · have hless : n < 2 ^ (k + 53) := Nat.lt_of_lt_of_le hhigh (Nat.pow_le_pow_right (by decide) hsmall)
    have htwice : 2 ^ (k + 54) = 2 * 2 ^ (k + 53) := Nat.pow_succ'
    have hunit : 2 ^ k ≤ 2 ^ (k + 53) := Nat.pow_le_pow_right (by decide) (by omega)
    refine iff_of_false (fun h => ?_) (by omega)
    have hbelow : ((2 ^ (k + 54) : Nat) : Rat) < ((2 * n : Nat) : Rat) := by
      rw [Rat.natCast_mul]
      have htwo := onGrid_lt_two_mul hn
      grind
    have := Rat.natCast_lt_natCast.mp hbelow
    omega
  · have hiff := even_mul_two_pow_le_onGrid_iff hn (k := k + 1) (by omega) (2 ^ 53) (by decide)
    have hpower : 2 ^ 53 * 2 ^ (k + 1) = 2 ^ (k + 54) := by rw [← Nat.pow_add, Nat.add_comm]
    have hhalf : ((2 ^ (k + 1) : Nat) : Rat) / 2 = ((2 ^ k : Nat) : Rat) := by
      rw [Nat.pow_succ, Rat.natCast_mul]
      grind
    rw [hpower, hhalf] at hiff
    rw [hiff, ← Rat.natCast_le_natCast, Rat.natCast_add]
    grind
  · obtain ⟨j, hj⟩ : ∃ j, n.log2 = j + 52 := ⟨n.log2 - 52, by omega⟩
    have hreached := (even_mul_two_pow_le_onGrid_iff hn hj (2 ^ 52) (by decide)).mpr
    have hpower : 2 ^ 52 * 2 ^ j = 2 ^ n.log2 := by rw [← Nat.pow_add, hj, Nat.add_comm]
    have hpast : 2 ^ (k + 54) ≤ 2 ^ n.log2 := Nat.pow_le_pow_right (by decide) (by omega)
    have hunit : (0 : Rat) < ((2 ^ j : Nat) : Rat) := Rat.natCast_pos.mpr (Nat.two_pow_pos j)
    have hleading : ((2 ^ n.log2 : Nat) : Rat) ≤ n := Rat.natCast_le_natCast.mpr hlow
    rw [hpower] at hreached
    exact iff_of_true (Rat.le_trans (Rat.natCast_le_natCast.mpr hpast) (hreached (by grind)))
      (Nat.le_trans hpast (Nat.le_trans hlow (Nat.le_add_right n _)))

/-- Integers become infinite halfway between the largest double and `2 ^ 1024`. -/
theorem round_eq_infinite_iff (hn : 0 < n) : round (n : Rat) = .infinite false ↔ firstInfinite ≤ n := by
  have hends (k m : Nat) (hm : m = k + 54) : twoPow m ≤ onGrid n ↔ 2 ^ m - 2 ^ k ≤ n := by
    rw [hm, twoPow_natCast, two_pow_le_onGrid_iff hn, Nat.sub_le_iff_le_add]
  rw [round_eq_infinite_iff_onGrid (Rat.natCast_pos.mpr hn), show (1024 : Int) = (1024 : Nat) from rfl, hends 970 1024 rfl,
    firstInfinite]

end Integers

end Sntp.Number
