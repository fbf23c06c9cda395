/-!
# Numbers

Every quantity that reaches this program from outside (a clock reading, a port, a limit) is a
double-precision number. `Number` holds such a value exactly, as a rational, beside the two
infinities and the undefined value, so that arithmetic on it can be reasoned about without rounding.
Zero carries no sign, because nothing that is computed or printed here tells one zero from the
other.

The module has the order, the few operations that never round (halving an amount before its fraction
is dropped, dropping the fraction, the absolute value), clamping, and the test for integers that a
double holds without a neighbour coinciding (`Number.safeInteger?`).
-/

set_option autoImplicit false

namespace Sntp

/-- A double-precision value, held exactly. -/
inductive Number where
  | nan
  | infinite (negative : Bool)
  | finite (value : Rat)
  deriving DecidableEq, Repr, Inhabited

/-- A value limited to a range: first raised to `low`, then lowered to `high`. -/
def clamp {α : Type} [Min α] [Max α] (value low high : α) : α :=
  min (max value low) high

namespace Number

/-- The number that an integer is. -/
def ofInt (n : Int) : Number := .finite n

/-- Integers are taken for numbers. -/
instance : Coe Int Number := ⟨ofInt⟩

/-- Numerals name numbers. -/
instance (n : Nat) : OfNat Number n := ⟨ofInt n⟩

/-- Strictly less. The undefined value is comparable to nothing. -/
def lt : Number → Number → Bool
  | .finite a, .finite b => decide (a < b)
  | .finite _, .infinite negative => !negative
  | .infinite negative, .finite _ => negative
  | .infinite m, .infinite n => m && !n
  | .nan, _ => false
  | _, .nan => false

/-- The larger number, undefined as soon as one of the two is. -/
instance : Max Number where
  max
    | .nan, _ => .nan
    | _, .nan => .nan
    | a, b => if a.lt b then b else a

/-- The smaller number, undefined as soon as one of the two is. -/
instance : Min Number where
  min
    | .nan, _ => .nan
    | _, .nan => .nan
    | a, b => if b.lt a then b else a

/-- The size of a number, whatever its sign. -/
def abs : Number → Number
  | .nan => .nan
  | .infinite _ => .infinite false
  | .finite q => .finite q.abs

/-- The integer part of a rational, its fraction dropped toward zero. -/
def wholePart (q : Rat) : Int := q.num.tdiv q.den

/-- Half of a number, its fraction then dropped toward zero. -/
def halfTruncated : Number → Number
  | .finite q => ofInt (wholePart (q / 2))
  | x => x

/-- The largest integer `n`, one less than `2 ^ 53`, such that `n` and all smaller magnitudes are
held exactly. -/
def safeLimit : Int := 9007199254740991

/-- Whether an integer's magnitude is at most `safeLimit`. -/
abbrev IsSafe (n : Int) : Prop := -safeLimit ≤ n ∧ n ≤ safeLimit

/-- The integer that a number is, when its magnitude is at most `safeLimit`. -/
def safeInteger? : Number → Option Int
  | .finite q => if q.den = 1 ∧ IsSafe q.num then some q.num else none
  | _ => none

end Number

end Sntp
