import Sntp.Number.Basic

/-!
# Rounding

A double is an integer of at most 53 bits times a power of two, the power being at least `-1074`.
`Number.round` takes a rational to the nearest such value; of two equally near ones it takes the one
with the even integer; from `2 ^ 1024` on the answer is infinite. Two ways to the nearest integer are
in use: `nearestEven` in that rounding, and `nearestUp` where times are told in whole units.
-/

set_option autoImplicit false

namespace Sntp.Number

/-- Two to an integer power. -/
def twoPow : Int → Rat
  | .ofNat n => (Nat.pow 2 n : Rat)
  | .negSucc n => mkRat 1 (Nat.pow 2 (n + 1))

/-- The largest `e` with `2 ^ e ≤ q`, for a positive `q`. The bit lengths of numerator and
denominator leave two candidates. -/
def floorLog2 (q : Rat) : Int :=
  let e : Int := (q.num.natAbs.log2 : Int) - (q.den.log2 : Int)
  if twoPow e ≤ q then e else e - 1

/-- The exponent of the grid of doubles around `q`: 53 bits below its leading bit, and never under
`-1074`. -/
def gridExponent (q : Rat) : Int := max (floorLog2 q.abs - 52) (-1074)

/-- The nearest integer; a half goes to the even neighbour. -/
def nearestEven (q : Rat) : Int :=
  let down := q.floor
  let rest := q - down
  if rest < mkRat 1 2 then down
  else if mkRat 1 2 < rest then down + 1
  else if down % 2 = 0 then down else down + 1

/-- The nearest integer; a half goes up, for negative numbers too. -/
def nearestUp (q : Rat) : Int := (q + mkRat 1 2).floor

/-- The double nearest to a rational. -/
def round (q : Rat) : Number :=
  if q = 0 then 0
  else
    let unit := twoPow (gridExponent q)
    let rounded := (nearestEven (q / unit) : Rat) * unit
    if twoPow 1024 ≤ rounded.abs then .infinite (decide (q < 0)) else .finite rounded

/-- A number divided by a thousand, rounded. -/
def thousandth : Number → Number
  | .finite q => round (q / 1000)
  | x => x

/-- Rounds `digits * 10 ^ exponent`. Far beyond the range of doubles the answer is known from the
count of digits alone, which keeps the powers of ten small. -/
def ofDecimal (digits : Nat) (exponent : Int) : Number :=
  let magnitude : Int := exponent + (Nat.toDigits 10 digits).length
  if digits = 0 ∨ magnitude < -400 then 0
  else if 400 < magnitude then .infinite false
  else
    match exponent with
    | .ofNat n => round (digits * Nat.pow 10 n : Nat)
    | .negSucc n => round (mkRat digits (Nat.pow 10 (n + 1)))

/-- The number of the opposite sign. -/
def neg : Number → Number
  | .nan => .nan
  | .infinite negative => .infinite (!negative)
  | .finite q => .finite (-q)

end Sntp.Number
