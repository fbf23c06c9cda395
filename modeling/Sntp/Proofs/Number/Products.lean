import Mathlib.Data.Rat.Floor
import Sntp.Proofs.Number.Sums

/-!
# Products and quotients of doubles

A double times a whole number is rounded, and so is a double divided by one (`times`, `dividedBy`). A quotient by a power of
two of an integer of at most 53 bits is exact (`dividedBy_two_pow`), and so is half of a double, but for the least ones, of
which only the fraction can be lost (`truncated_dividedBy_two`). Any other quotient is off by half of the grid's unit at most
(`dividedBy_near`).
-/

set_option autoImplicit false

namespace Sntp.Number

/-- A number times a positive whole number, in double precision. -/
def times (x : Number) (factor : Nat) : Number :=
  match x with
  | .finite q => round (q * factor)
  | other => other

/-- A number divided by a positive whole number, in double precision. -/
def dividedBy (x : Number) (divisor : Nat) : Number :=
  match x with
  | .finite q => round (q / divisor)
  | other => other

/-- The largest integer that is not above a number. -/
def floored : Number → Number
  | .finite q => ofInt q.floor
  | other => other

/-- A number without its fraction. -/
def truncated : Number → Number
  | .finite q => ofInt (wholePart q)
  | other => other

/-- An integer times a factor is the rounded product. -/
theorem times_ofInt (n : Int) (factor : Nat) : (ofInt n).times factor = round ((n * factor : Int) : Rat) := by
  rw [Rat.intCast_mul, Rat.intCast_natCast]
  rfl

/-- A thousandth is the quotient by a thousand. -/
theorem thousandth_eq (x : Number) : x.thousandth = x.dividedBy 1000 := by
  cases x <;> rfl

/-- An integer of at most 53 bits that is divided by a power of two is a double. -/
theorem dividedBy_two_pow {n : Int} (hbits : n.natAbs < 2 ^ 53) {k : Nat} (hk : k ≤ 1074) :
    (ofInt n).dividedBy (2 ^ k) = .finite (n / ((2 ^ k : Nat) : Rat)) := by
  have hpower : twoPow (-k) * ((2 ^ k : Nat) : Rat) = 1 := by
    rw [← twoPow_natCast, ← twoPow_add, Int.add_left_neg]
    rfl
  have hquotient : (n : Rat) / ((2 ^ k : Nat) : Rat) = n * twoPow (-k) := by
    have hpos : (0 : Rat) < ((2 ^ k : Nat) : Rat) := Rat.natCast_pos.mpr (Nat.two_pow_pos k)
    grind
  show round _ = _
  rw [hquotient]
  exact IsDouble.round_eq ⟨n, -k, hbits, by omega, by omega, rfl⟩

/-- Below a power of two a quotient is off by no more than 54 bits below that power. -/
theorem dividedBy_near (q : Rat) (divisor : Nat) {e : Int} (he : -1074 ≤ e) (htop : e ≤ 970)
    (hlow : -twoPow (e + 53) < q / divisor) (hhigh : q / divisor < twoPow (e + 53)) :
    ∃ y, (Number.finite q).dividedBy divisor = .finite y ∧ q / divisor - twoPow e / 2 ≤ y ∧ y ≤ q / divisor + twoPow e / 2 :=
  round_near he htop hlow hhigh

/-- A rational between -1 and 1 has no integer part. -/
theorem wholePart_eq_zero {q : Rat} (hlow : -1 < q) (hhigh : q < 1) : wholePart q = 0 := by
  have hbelow : -(q.den : Int) < q.num := by simpa [Rat.lt_iff] using hlow
  have habove : q.num < q.den := by simpa [Rat.lt_iff] using hhigh
  unfold wholePart
  rw [← Int.natAbs_eq_zero, Int.natAbs_tdiv]
  exact Nat.div_eq_of_lt (by omega)

/-- A number that is not negative loses its fraction to the floor. -/
theorem wholePart_eq_floor {q : Rat} (h : 0 ≤ q) : wholePart q = q.floor := by
  unfold wholePart
  rw [Int.tdiv_eq_ediv_of_nonneg (Rat.num_nonneg.mpr h), Rat.floor_def]

/-- Rounding half of a double does not change its integer part: half of a small double is far below one, and half of any
other is a double. -/
theorem truncated_dividedBy_two {q : Rat} (h : IsDouble q) :
    ((Number.finite q).dividedBy 2).truncated = (Number.finite q).halfTruncated := by
  obtain ⟨k, e, hbits, he, htop, rfl⟩ := h
  obtain hsmall | hlarger : e ≤ -53 ∨ -1074 < e := by omega
  · have hbound : twoPow (e + 53) ≤ twoPow 0 := twoPow_le_iff.mpr (by omega)
    have hone : twoPow 0 = 1 := rfl
    have hunit : twoPow e ≤ twoPow (e + 53) := twoPow_le_iff.mpr (by omega)
    obtain ⟨hlow, hhigh⟩ := mul_twoPow_bounds e hbits
    generalize (k : Rat) * twoPow e = q at *
    obtain ⟨y, hy, hbelow, habove⟩ := dividedBy_near q 2 he (by omega) (by grind) (by grind)
    have hrounded : wholePart y = 0 := wholePart_eq_zero (by grind) (by grind)
    have hexact : wholePart (q / 2) = 0 := wholePart_eq_zero (by grind) (by grind)
    rw [hy]
    show ofInt (wholePart y) = ofInt (wholePart (q / 2))
    rw [hrounded, hexact]
  · have hhalf : (k : Rat) * twoPow e / 2 = k * twoPow (e - 1) := by
      have hpower : twoPow e = twoPow (e - 1) * twoPow 1 := by rw [← twoPow_add, Int.sub_add_cancel]
      have htwo : twoPow 1 = 2 := rfl
      rw [hpower, htwo]
      grind
    have hexact : IsDouble (k * twoPow e / 2) := ⟨k, e - 1, hbits, by omega, by omega, hhalf⟩
    show (round (k * twoPow e / 2)).truncated = _
    rw [hexact.round_eq]
    rfl

end Sntp.Number
