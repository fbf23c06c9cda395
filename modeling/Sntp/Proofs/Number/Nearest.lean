import Sntp.Proofs.Number.Grid

/-!
# The nearest double

A double is a multiple of the unit of the grid around a positive number, or it lies below a multiple of it that the
number itself is not below (`exists_gridPoint`). Rounding goes to the nearest multiple, so no double is nearer
(`onGrid_nearest`), and where doubles reach it is a double itself (`isDouble_onGrid`, `round_natCast_nearest`).

A text of decimal digits is read as the number that it writes, rounded (`ofDecimal_natCast`): only numbers that are
infinite anyway are told by the count of their digits.
-/

set_option autoImplicit false

namespace Sntp.Number

/-- No integer is nearer than the nearest one. -/
theorem nearestEven_nearest (q : Rat) (i : Int) : (q - nearestEven q).abs ≤ (q - i).abs := by
  have hlow := Rat.floor_le q
  have hhigh := Rat.lt_floor_add_one q
  have hside : (i : Rat) ≤ q.floor ∨ (q.floor : Rat) + 1 ≤ i := by
    rcases Int.lt_or_le q.floor i with hless | hle
    · refine .inr ?_
      have hcast : ((q.floor + 1 : Int) : Rat) ≤ i := Rat.intCast_le_intCast.mpr hless
      simpa using hcast
    · exact .inl (Rat.intCast_le_intCast.mpr hle)
  unfold nearestEven
  simp only [mkRat_half]
  generalize q.floor = down at *
  have hsucc : ((down + 1 : Int) : Rat) = down + 1 := by simp
  unfold Rat.abs
  split
  case isTrue => grind
  case isFalse =>
    split
    · grind
    · split <;> grind

/-- A positive unit scales the size of a rational. -/
theorem abs_mul_of_pos (a : Rat) {unit : Rat} (hunit : 0 < unit) : (a * unit).abs = a.abs * unit := by
  rcases Rat.le_total (a := 0) (b := a) with hpos | hneg
  · rw [Rat.abs_of_nonneg hpos, Rat.abs_of_nonneg (Rat.mul_nonneg hpos (Rat.le_of_lt hunit))]
  · have hproduct : a * unit ≤ 0 := mul_nonpos_of_nonpos_of_nonneg hneg (Rat.le_of_lt hunit)
    rw [Rat.abs_of_nonpos hneg, Rat.abs_of_nonpos hproduct, Rat.neg_mul]

/-- No multiple of the unit is nearer than the one on the grid. -/
theorem onGrid_le_dist (x : Rat) (i : Int) : (x - onGrid x).abs ≤ (x - i * twoPow (gridExponent x)).abs := by
  have hunit := twoPow_pos (gridExponent x)
  have hx := div_mul_unit x
  have hnearest := nearestEven_nearest (x / twoPow (gridExponent x)) i
  unfold onGrid
  generalize twoPow (gridExponent x) = unit at *
  have hscale (a : Rat) : (x - a * unit).abs = (x / unit - a).abs * unit := by
    rw [← abs_mul_of_pos _ hunit]
    congr 1
    grind
  rw [hscale, hscale]
  exact Rat.mul_le_mul_of_nonneg_right hnearest (Rat.le_of_lt hunit)

section Positive

variable {x : Rat}

/-- The unit of the grid is the smallest one, or 52 bits below the leading bit. -/
theorem gridExponent_cases (hx : 0 < x) : gridExponent x = -1074 ∨ gridExponent x = floorLog2 x - 52 := by
  unfold gridExponent
  rw [Rat.abs_of_nonneg (Rat.le_of_lt hx)]
  omega

/-- Powers of two, natural and rational, are multiplied by adding their exponents. -/
theorem two_pow_mul_twoPow (k : Nat) (e : Int) : ((2 ^ k : Nat) : Rat) * twoPow e = twoPow (e + k) := by
  rw [Rat.mul_comm, twoPow_add, twoPow_natCast]

/-- For every double there is a multiple of the unit that is no farther away: the double itself, or the leading power of
two of the number, if the double is below it. -/
theorem exists_gridPoint (hx : 0 < x) {d : Rat} (hd : IsDouble d) :
    ∃ i : Int, (x - i * twoPow (gridExponent x)).abs ≤ (x - d).abs := by
  obtain ⟨k, e, hbits, he, htop, rfl⟩ := hd
  by_cases hcoarse : gridExponent x ≤ e
  · obtain ⟨finer, hfiner⟩ := Int.le.dest hcoarse
    refine ⟨k * (2 ^ finer : Nat), ?_⟩
    rw [Rat.intCast_mul, Rat.intCast_natCast, Rat.mul_assoc, two_pow_mul_twoPow, hfiner]
  · obtain ⟨hleading, -⟩ := floorLog2_bounds hx
    obtain ⟨-, hbelow⟩ := mul_twoPow_bounds e hbits
    have hexponent : gridExponent x = floorLog2 x - 52 := (gridExponent_cases hx).resolve_left (by omega)
    have hleast : twoPow (e + 53) ≤ twoPow (floorLog2 x) := twoPow_le_iff.mpr (by omega)
    refine ⟨(2 ^ 52 : Nat), ?_⟩
    rw [Rat.intCast_natCast, two_pow_mul_twoPow, hexponent, show floorLog2 x - 52 + (52 : Nat) = floorLog2 x by omega,
      Rat.abs_of_nonneg (by grind), Rat.abs_of_nonneg (by grind)]
    grind

/-- No double is nearer to a positive number than the one on the grid. -/
theorem onGrid_nearest (hx : 0 < x) {d : Rat} (hd : IsDouble d) : (x - onGrid x).abs ≤ (x - d).abs := by
  obtain ⟨i, hi⟩ := exists_gridPoint hx hd
  exact Rat.le_trans (onGrid_le_dist x i) hi

/-- A positive number is less than 53 bits on its grid, or it is rounded up to that many. -/
theorem nearestEven_bits (hx : 0 < x) :
    0 ≤ nearestEven (x / twoPow (gridExponent x)) ∧ nearestEven (x / twoPow (gridExponent x)) ≤ (2 ^ 53 : Nat) := by
  have hunit := twoPow_pos (gridExponent x)
  obtain ⟨-, hnext⟩ := floorLog2_bounds hx
  have htop : twoPow (floorLog2 x + 1) ≤ twoPow (gridExponent x + 53) := by
    apply twoPow_le_iff.mpr
    unfold gridExponent
    rw [Rat.abs_of_nonneg (Rat.le_of_lt hx)]
    omega
  constructor
  · apply le_nearestEven_of_le
    exact Rat.le_of_lt (div_pos hx hunit)
  · apply nearestEven_le_of_le
    apply Rat.le_of_mul_le_mul_right _ hunit
    rw [div_mul_unit, Rat.intCast_natCast, two_pow_mul_twoPow]
    exact Rat.le_trans (Rat.le_of_lt hnext) htop

/-- What is on the grid is a double, as far as doubles reach. -/
theorem isDouble_onGrid (hx : 0 < x) (hreached : onGrid x < twoPow 1024) : IsDouble (onGrid x) := by
  obtain ⟨hnonneg, hbits⟩ := nearestEven_bits hx
  have hlow : -1074 ≤ gridExponent x := by
    unfold gridExponent
    omega
  -- A coarser grid would have its points at the largest power of two and above.
  have htop : gridExponent x ≤ 971 := by
    rcases gridExponent_cases hx with hleast | hleading
    · omega
    · obtain ⟨hpower, -⟩ := floorLog2_bounds hx
      have hunits : ((2 ^ 52 : Nat) : Rat) * twoPow (gridExponent x) = twoPow (floorLog2 x) := by
        rw [two_pow_mul_twoPow, hleading]
        congr 1
        omega
      have hgrid : ((2 ^ 52 : Nat) : Int) * twoPow (gridExponent x) ≤ onGrid x := by
        apply mul_unit_le_onGrid
        rwa [Rat.intCast_natCast, hunits]
      rw [Rat.intCast_natCast, hunits] at hgrid
      have hlog := twoPow_lt_iff.mp (lt_of_le_of_lt hgrid hreached)
      omega
  by_cases hfits : nearestEven (x / twoPow (gridExponent x)) < (2 ^ 53 : Nat)
  · exact ⟨_, gridExponent x, by omega, hlow, htop, rfl⟩
  · -- Rounded up to the next power of two, it is one bit on the grid after this one.
    have hpower : onGrid x = twoPow (gridExponent x + 53) := by
      have hrounded : nearestEven (x / twoPow (gridExponent x)) = (2 ^ 53 : Nat) := by omega
      unfold onGrid
      rw [hrounded, Rat.intCast_natCast, two_pow_mul_twoPow]
      rfl
    rw [hpower] at hreached ⊢
    have hlog := twoPow_lt_iff.mp hreached
    refine ⟨(2 ^ 52 : Nat), gridExponent x + 1, by decide, by omega, by omega, ?_⟩
    rw [Rat.intCast_natCast, two_pow_mul_twoPow]
    congr 1
    omega

end Positive

/-- Whether a number is nearest to a natural number: a double that no other is nearer than, or infinity from halfway
past the largest one. -/
def IsNearest (n : Nat) : Number → Prop
  | .finite r => n < firstInfinite ∧ IsDouble r ∧ ∀ d, IsDouble d → ((n : Rat) - r).abs ≤ ((n : Rat) - d).abs
  | .infinite negative => firstInfinite ≤ n ∧ negative = false
  | .nan => False

/-- Rounding a natural number takes a nearest double. -/
theorem isNearest_round (n : Nat) : IsNearest n (round n) := by
  by_cases hzero : n = 0
  · subst hzero
    have hdouble : IsDouble ((0 : Nat) : Rat) := isDouble_intCast (k := 0) (by decide)
    have hpositive : 0 < firstInfinite := Nat.lt_of_lt_of_le (by decide) (two_pow_le_firstInfinite (k := 0) (by decide))
    refine ⟨hpositive, hdouble, fun d _ => ?_⟩
    unfold Rat.abs
    grind
  have hn : 0 < n := by omega
  have hx : (0 : Rat) < n := Rat.natCast_pos.mpr hn
  by_cases hreached : onGrid (n : Rat) < twoPow 1024
  · have hnonneg := onGrid_nonneg hx
    have hpower := twoPow_pos 1024
    have hround : round (n : Rat) = .finite (onGrid n) := round_eq_finite (by grind) hreached
    have hbelow : n < firstInfinite := by
      apply Nat.lt_of_not_le
      intro hle
      rw [← round_eq_infinite_iff hn, hround] at hle
      cases hle
    rw [hround]
    exact ⟨hbelow, isDouble_onGrid hx hreached, fun d hd => onGrid_nearest hx hd⟩
  · have hround := (round_eq_infinite_iff_onGrid hx).mpr (Rat.not_lt.mp hreached)
    rw [hround]
    exact ⟨(round_eq_infinite_iff hn).mp hround, rfl⟩

/-- Ten to the power of 400 is beyond all doubles. -/
theorem firstInfinite_le_ten_pow : firstInfinite ≤ 10 ^ 400 := by
  have hpower (bits places : Nat) (hbits : bits ≤ 3 * places) : 2 ^ bits ≤ 10 ^ places :=
    calc 2 ^ bits ≤ 2 ^ (3 * places) := Nat.pow_le_pow_right (by decide) hbits
      _ = (2 ^ 3) ^ places := Nat.pow_mul 2 3 places
      _ ≤ 10 ^ places := Nat.pow_le_pow_left (by decide) places
  unfold firstInfinite
  exact Nat.le_trans (Nat.sub_le _ _) (hpower 1024 400 (by decide))

/-- Digits without an exponent are the number that they write, rounded. -/
theorem ofDecimal_natCast (n : Nat) : ofDecimal n 0 = round n := by
  by_cases hzero : n = 0
  · subst hzero
    rfl
  unfold ofDecimal
  have hmagnitude : ¬ (n = 0 ∨ (0 : Int) + ((Nat.toDigits 10 n).length : Int) < -400) := by omega
  simp only [if_neg hmagnitude]
  by_cases hlong : 400 < (0 : Int) + ((Nat.toDigits 10 n).length : Int)
  · rw [if_pos hlong]
    symm
    apply (round_eq_infinite_iff (by omega)).mpr
    have hlarge : 10 ^ 400 ≤ n := by
      apply Nat.le_of_not_lt
      intro hsmall
      have hshort := (Nat.length_toDigits_le_iff (b := 10) (by decide) (by decide)).mpr hsmall
      omega
    exact Nat.le_trans firstInfinite_le_ten_pow hlarge
  · rw [if_neg hlong]
    show round ((n * 1 : Nat) : Rat) = round n
    rw [Nat.mul_one]

end Sntp.Number
