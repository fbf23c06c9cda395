import Sntp.Proofs.Number.Reach

/-!
# The grid of doubles

A positive number lies between two powers of two that follow each other, and the grid of doubles around it has a unit
that is 53 bits below the upper one (`floorLog2_bounds`, `gridExponent_le`). Rounding goes past no multiple of the unit
(`mul_unit_le_onGrid`, `onGrid_le_mul_unit`). So an integer of at most 53 bits times a power of two is left as it is
(`onGrid_mul_twoPow`, `IsDouble.round_eq`), and every other number is moved by half of the unit at most (`onGrid_near`,
`round_near`).
-/

set_option autoImplicit false

namespace Sntp.Number

section Exponents

variable {q x : Rat} {e : Int}

/-- The binary logarithm of a natural number tells between which powers of two it lies. -/
theorem twoPow_log2_bounds {n : Nat} (hn : n ≠ 0) : twoPow n.log2 ≤ n ∧ (n : Rat) < twoPow (n.log2 + 1) :=
  ⟨Rat.natCast_le_natCast.mpr (Nat.log2_self_le hn), Rat.natCast_lt_natCast.mpr Nat.lt_log2_self⟩

/-- A positive number is not below the power of two that its logarithm, rounded down, gives, but below the next one. -/
theorem floorLog2_bounds (hq : 0 < q) : twoPow (floorLog2 q) ≤ q ∧ q < twoPow (floorLog2 q + 1) := by
  have hden : (0 : Rat) < q.den := Rat.natCast_pos.mpr q.den_pos
  have hnum : 0 < q.num := Rat.num_pos.mpr hq
  have hfraction : q * q.den = (q.num.natAbs : Rat) := by
    rw [Rat.mul_den_eq_num, ← Rat.intCast_natCast, Int.natAbs_of_nonneg (Int.le_of_lt hnum)]
  obtain ⟨hnumLow, hnumHigh⟩ := twoPow_log2_bounds (Int.natAbs_ne_zero.mpr (Int.ne_of_gt hnum))
  obtain ⟨hdenLow, hdenHigh⟩ := twoPow_log2_bounds q.den_nz
  rw [← hfraction] at hnumLow hnumHigh
  generalize hm : (q.num.natAbs.log2 : Int) = m at hnumLow hnumHigh
  generalize hd : (q.den.log2 : Int) = d at hdenLow hdenHigh
  -- The fraction of the two powers is off by a factor of two at most, on either side.
  have hlow : twoPow (m - d - 1) < q := by
    refine lt_of_mul_lt_mul_right ?_ (Rat.le_of_lt hden)
    calc twoPow (m - d - 1) * q.den < twoPow (m - d - 1) * twoPow (d + 1) :=
          mul_lt_mul_of_pos_left hdenHigh (twoPow_pos _)
      _ = twoPow m := by
        rw [← twoPow_add]
        congr 1
        omega
      _ ≤ q * q.den := hnumLow
  have hhigh : q < twoPow (m - d + 1) := by
    refine lt_of_mul_lt_mul_right ?_ (Rat.le_of_lt hden)
    calc q * q.den < twoPow (m + 1) := hnumHigh
      _ = twoPow (m - d + 1) * twoPow d := by
        rw [← twoPow_add]
        congr 1
        omega
      _ ≤ twoPow (m - d + 1) * q.den := mul_le_mul_of_nonneg_left hdenLow (Rat.le_of_lt (twoPow_pos _))
  unfold floorLog2
  simp only [hm, hd]
  split
  case isTrue hle => exact ⟨hle, hhigh⟩
  case isFalse hless =>
    rw [Int.sub_add_cancel]
    exact ⟨Rat.le_of_lt hlow, Rat.not_le.mp hless⟩

/-- The size of a rational is below a bound if it lies between the bound and its opposite. -/
theorem abs_lt_iff {bound : Rat} : x.abs < bound ↔ -bound < x ∧ x < bound := by
  unfold Rat.abs
  split <;> grind

/-- A number of a magnitude below a power of two has a grid around it that is as fine as 53 bits below that power. -/
theorem gridExponent_le (hx : x ≠ 0) (he : -1074 ≤ e) (hlow : -twoPow (e + 53) < x) (hhigh : x < twoPow (e + 53)) :
    gridExponent x ≤ e := by
  obtain ⟨hpower, -⟩ := floorLog2_bounds (Rat.abs_pos_iff.mpr hx)
  have hlog : floorLog2 x.abs < e + 53 := twoPow_lt_iff.mp (lt_of_le_of_lt hpower (abs_lt_iff.mpr ⟨hlow, hhigh⟩))
  unfold gridExponent
  omega

end Exponents

section Grid

/-- Rounding to the nearest integer goes past no integer from below. -/
theorem nearestEven_le_of_le {q : Rat} {k : Int} (h : q ≤ k) : nearestEven q ≤ k := by
  have hrounded := nearestEven_le q
  have hlt : (nearestEven q : Rat) < ((k + 1 : Int) : Rat) := by
    have hsucc : ((k + 1 : Int) : Rat) = k + 1 := by simp
    grind
  exact Int.lt_add_one_iff.mp (Rat.intCast_lt_intCast.mp hlt)

/-- Nor does it from above. -/
theorem le_nearestEven_of_le {q : Rat} {k : Int} (h : (k : Rat) ≤ q) : k ≤ nearestEven q := by
  have hfloor : k ≤ q.floor := Rat.le_floor_iff.mpr h
  unfold nearestEven
  simp only []
  split
  case isTrue => exact hfloor
  case isFalse =>
    split
    · omega
    · split <;> omega

/-- It moves a number by half of one at most. -/
theorem sub_half_le_nearestEven (q : Rat) : q - 1 / 2 ≤ nearestEven q := by
  have hhigh := Rat.lt_floor_add_one q
  unfold nearestEven
  simp only [mkRat_half]
  generalize q.floor = down at *
  have hsucc : ((down + 1 : Int) : Rat) = down + 1 := by simp
  split
  case isTrue => grind
  case isFalse =>
    split
    · grind
    · split <;> grind

variable {x : Rat} {k : Int}

/-- Scaling by the unit of the grid can be undone. -/
theorem div_mul_unit (x : Rat) : x / twoPow (gridExponent x) * twoPow (gridExponent x) = x := by
  have hunit := twoPow_pos (gridExponent x)
  generalize twoPow (gridExponent x) = unit at *
  grind

/-- A point of the grid that is not above a rational is not above the point it is rounded to. -/
theorem mul_unit_le_onGrid (h : k * twoPow (gridExponent x) ≤ x) : k * twoPow (gridExponent x) ≤ onGrid x := by
  have hunit := twoPow_pos (gridExponent x)
  have hquotient : (k : Rat) ≤ x / twoPow (gridExponent x) := by
    refine Rat.le_of_mul_le_mul_right ?_ hunit
    rwa [div_mul_unit]
  exact Rat.mul_le_mul_of_nonneg_right (Rat.intCast_le_intCast.mpr (le_nearestEven_of_le hquotient)) (Rat.le_of_lt hunit)

/-- A point of the grid that is not below a rational is not below the point it is rounded to. -/
theorem onGrid_le_mul_unit (h : x ≤ k * twoPow (gridExponent x)) : onGrid x ≤ k * twoPow (gridExponent x) := by
  have hunit := twoPow_pos (gridExponent x)
  have hquotient : x / twoPow (gridExponent x) ≤ (k : Rat) := by
    refine Rat.le_of_mul_le_mul_right ?_ hunit
    rwa [div_mul_unit]
  exact Rat.mul_le_mul_of_nonneg_right (Rat.intCast_le_intCast.mpr (nearestEven_le_of_le hquotient)) (Rat.le_of_lt hunit)

/-- A multiple of the unit is on the grid already. -/
theorem onGrid_eq_self (h : x = k * twoPow (gridExponent x)) : onGrid x = x := by
  have hle : onGrid x ≤ k * twoPow (gridExponent x) := onGrid_le_mul_unit (by grind)
  have hge : k * twoPow (gridExponent x) ≤ onGrid x := mul_unit_le_onGrid (by grind)
  rw [← h] at hle hge
  exact Rat.le_antisymm hle hge

/-- Zero is a point of its grid. -/
theorem onGrid_zero : onGrid 0 = 0 := onGrid_eq_self (k := 0) (Rat.zero_mul _).symm

/-- A multiple of a power of two by at most 53 bits stays below the power that is 53 places higher. -/
theorem mul_twoPow_bounds (e : Int) (hbits : k.natAbs < 2 ^ 53) :
    -twoPow (e + 53) < k * twoPow e ∧ k * twoPow e < twoPow (e + 53) := by
  have hlow : ((-2 ^ 53 : Int) : Rat) < k := Rat.intCast_lt_intCast.mpr (by omega)
  have hhigh : (k : Rat) < ((2 ^ 53 : Int) : Rat) := Rat.intCast_lt_intCast.mpr (by omega)
  have htop : twoPow (e + 53) = ((2 ^ 53 : Int) : Rat) * twoPow e := by
    rw [twoPow_add, Rat.mul_comm]
    rfl
  rw [htop, ← Rat.neg_mul, ← Rat.intCast_neg]
  exact ⟨mul_lt_mul_of_pos_right hlow (twoPow_pos e), mul_lt_mul_of_pos_right hhigh (twoPow_pos e)⟩

/-- An integer of at most 53 bits times a power of two is on the grid, if the power is one of a double. -/
theorem onGrid_mul_twoPow {e : Int} (hbits : k.natAbs < 2 ^ 53) (he : -1074 ≤ e) : onGrid (k * twoPow e) = k * twoPow e := by
  by_cases hk : k = 0
  · rw [hk, Rat.intCast_zero, Rat.zero_mul, onGrid_zero]
  have hne : (k : Rat) * twoPow e ≠ 0 := mul_ne_zero (mt Rat.intCast_eq_zero_iff.mp hk) (Rat.ne_of_gt (twoPow_pos e))
  obtain ⟨hlow, hhigh⟩ := mul_twoPow_bounds e hbits
  obtain ⟨finer, hfiner⟩ := Int.le.dest (gridExponent_le hne he hlow hhigh)
  -- The unit is the given power or smaller, and the integer is so many times larger in units.
  refine onGrid_eq_self (k := k * (2 ^ finer : Nat)) ?_
  rw [Rat.intCast_mul, Rat.intCast_natCast, ← twoPow_natCast, Rat.mul_assoc, ← twoPow_add, Int.add_comm, hfiner]

/-- Rounding takes off half a unit at most. -/
theorem le_onGrid (x : Rat) : x - twoPow (gridExponent x) / 2 ≤ onGrid x := by
  have hunit := twoPow_pos (gridExponent x)
  have hrounded := Rat.mul_le_mul_of_nonneg_right (sub_half_le_nearestEven (x / twoPow (gridExponent x))) (Rat.le_of_lt hunit)
  have hx := div_mul_unit x
  unfold onGrid
  grind

/-- Rounding moves a number of a magnitude below a power of two by no more than 54 bits below that power. -/
theorem onGrid_near {e : Int} (he : -1074 ≤ e) (hlow : -twoPow (e + 53) < x) (hhigh : x < twoPow (e + 53)) :
    x - twoPow e / 2 ≤ onGrid x ∧ onGrid x ≤ x + twoPow e / 2 := by
  by_cases hx : x = 0
  · have hpower := twoPow_pos e
    rw [hx, onGrid_zero]
    grind
  have hunit := twoPow_le_iff.mpr (gridExponent_le hx he hlow hhigh)
  have hbelow := le_onGrid x
  have habove := onGrid_le x
  grind

/-- A rational other than zero is rounded to its grid, and beyond the largest power to an infinity of its sign. -/
theorem round_of_ne_zero (h : x ≠ 0) :
    round x = if twoPow 1024 ≤ (onGrid x).abs then .infinite (decide (x < 0)) else .finite (onGrid x) := by
  unfold round
  rw [if_neg h]
  rfl

/-- A number that the grid keeps below the end of the doubles is rounded to a finite one. -/
theorem round_eq_finite (hlow : -twoPow 1024 < onGrid x) (hhigh : onGrid x < twoPow 1024) : round x = .finite (onGrid x) := by
  by_cases hx : x = 0
  · rw [hx, onGrid_zero]
    rfl
  rw [round_of_ne_zero hx, if_neg (Rat.not_le.mpr (abs_lt_iff.mpr ⟨hlow, hhigh⟩))]

/-- Rounding moves a number that is far from the end of the doubles to a finite one, by no more than the grid does. -/
theorem round_near {e : Int} (he : -1074 ≤ e) (htop : e ≤ 970) (hlow : -twoPow (e + 53) < x) (hhigh : x < twoPow (e + 53)) :
    ∃ y, round x = .finite y ∧ x - twoPow e / 2 ≤ y ∧ y ≤ x + twoPow e / 2 := by
  obtain ⟨hbelow, habove⟩ := onGrid_near he hlow hhigh
  have hpower : twoPow (e + 53 + 1) ≤ twoPow 1024 := twoPow_le_iff.mpr (by omega)
  have hunit : twoPow e ≤ twoPow (e + 53) := twoPow_le_iff.mpr (by omega)
  have htwice : twoPow (e + 53 + 1) = 2 * twoPow (e + 53) := by
    rw [twoPow_add, Rat.mul_comm]
    rfl
  exact ⟨onGrid x, round_eq_finite (by grind) (by grind), hbelow, habove⟩

/-- Whether a number is a double: an integer of at most 53 bits times a power of two, within the range of powers. -/
def IsDouble (q : Rat) : Prop := ∃ k e : Int, k.natAbs < 2 ^ 53 ∧ -1074 ≤ e ∧ e ≤ 971 ∧ q = k * twoPow e

/-- A double is left as it is. -/
theorem IsDouble.round_eq {q : Rat} (h : IsDouble q) : round q = .finite q := by
  obtain ⟨k, e, hbits, he, htop, rfl⟩ := h
  have hgrid := onGrid_mul_twoPow hbits he
  obtain ⟨hlow, hhigh⟩ := mul_twoPow_bounds e hbits
  have hpower : twoPow (e + 53) ≤ twoPow 1024 := twoPow_le_iff.mpr (by omega)
  rw [← hgrid] at hlow hhigh
  rw [round_eq_finite (by grind) (by grind), hgrid]

/-- An integer of at most 53 bits is a double. -/
theorem isDouble_intCast (hbits : k.natAbs < 2 ^ 53) : IsDouble k :=
  ⟨k, 0, hbits, by decide, by decide, (Rat.mul_one _).symm⟩

end Grid

end Sntp.Number
