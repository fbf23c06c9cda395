import Sntp.Number.Rounding

/-!
# Decimal text of numbers

Two forms are written. `Number.text` is the default one: the fewest digits that read back as the
same double (of several such decimals the nearest, and of two equally near ones the even one),
positional from a millionth up to `10 ^ 21`, otherwise with a signed exponent. `Number.fixedThree`
has exactly three places, a half going to the larger magnitude.
-/

set_option autoImplicit false

namespace Sntp.Number

/-- The decimal digits of a natural number. -/
def digitsOf (n : Nat) : List Char := Nat.toDigits 10 n

/-- An integer in decimal digits, after a sign if it is negative. -/
def integerChars (n : Int) : List Char :=
  if n < 0 then '-' :: digitsOf n.natAbs else digitsOf n.natAbs

/-- The decimal text of an integer. -/
def integerText (n : Int) : String := String.ofList (integerChars n)

/-- Ten to an integer power. -/
def tenPow : Int → Rat
  | .ofNat n => (Nat.pow 10 n : Rat)
  | .negSucc n => mkRat 1 (Nat.pow 10 (n + 1))

/-- The reals that round to one positive double. -/
structure Neighbourhood where
  low : Rat
  high : Rat
  /-- Whether the ends themselves round to the double. -/
  closed : Bool

/-- The least integer of 53 bits, `2 ^ 52`. -/
def leastFullInteger : Int := 4503599627370496

/-- The neighbourhood of a positive double reaches halfway to the doubles beside it; below a power
of two the next one is half as far away. Its ends belong to it when the double's own integer is
even. -/
def Neighbourhood.around (q : Rat) : Neighbourhood :=
  let e := gridExponent q
  let unit := twoPow e
  let integer := (q / unit).floor
  let below := if integer = leastFullInteger ∧ -1074 < e then unit / 4 else unit / 2
  { low := q - below, high := q + unit / 2, closed := integer % 2 == 0 }

/-- Whether a rational rounds to the neighbourhood's double. -/
def Neighbourhood.contains (n : Neighbourhood) (q : Rat) : Bool :=
  if n.closed then decide (n.low ≤ q ∧ q ≤ n.high) else decide (n.low < q ∧ q < n.high)

/-- The count of digits before the decimal point of a positive rational, negative for leading zeros
after it. -/
def pointPosition (q : Rat) : Int :=
  ((digitsOf (q * tenPow 400).floor.toNat).length : Int) - 400

/-- The integer `d` with `d * 10 ^ e` in the neighbourhood of `q` and nearest to it, if there is
one; of two equally near ones the even one. -/
def decimalOnGrid? (n : Neighbourhood) (q : Rat) (e : Int) : Option Nat :=
  let unit := tenPow e
  let down := (q / unit).floor
  let low := (down : Rat) * unit
  let high := (down + 1 : Rat) * unit
  let isLowNearer := q - low < high - q ∨ q - low = high - q ∧ down % 2 = 0
  match n.contains low, n.contains high with
  | true, true => some (if isLowNearer then down.toNat else (down + 1).toNat)
  | true, false => some down.toNat
  | false, true => some (down + 1).toNat
  | false, false => none

/-- Searches grids of one digit more each time, and gives the digits found with the grid's exponent.
Seventeen digits always suffice. -/
def shortestFrom (n : Neighbourhood) (q : Rat) (e : Int) : Nat → Nat × Int
  | 0 => ((q / tenPow e).floor.toNat, e)
  | fuel + 1 =>
    match decimalOnGrid? n q e with
    | some d => (d, e)
    | none => shortestFrom n q (e - 1) fuel

/-- The shortest digits of a positive double, without trailing zeros, and the position of the point
among them. -/
def shortest (q : Rat) : List Char × Int :=
  let position := pointPosition q
  let (d, e) := shortestFrom (Neighbourhood.around q) q (position - 1) 17
  let digits := digitsOf d
  ((digits.reverse.dropWhile (· == '0')).reverse, e + digits.length)

/-- A positive double in the default form. -/
def positiveText (q : Rat) : List Char :=
  let (digits, point) := shortest q
  let count : Int := digits.length
  if count ≤ point ∧ point ≤ 21 then digits ++ List.replicate (point - count).toNat '0'
  else if 0 < point ∧ point ≤ 21 then digits.take point.toNat ++ '.' :: digits.drop point.toNat
  else if -6 < point ∧ point ≤ 0 then '0' :: '.' :: (List.replicate (-point).toNat '0' ++ digits)
  else
    let exponent := point - 1
    let mantissa := match digits with
      | [] => []
      | [d] => [d]
      | d :: rest => d :: '.' :: rest
    mantissa ++ 'e' :: (if exponent < 0 then '-' else '+') :: digitsOf exponent.natAbs

/-- A finite double in the default form. -/
def finiteText (q : Rat) : List Char :=
  if q = 0 then ['0'] else if q < 0 then '-' :: positiveText (-q) else positiveText q

/-- A number in the default form. -/
def text : Number → String
  | .nan => "NaN"
  | .infinite negative => if negative then "-Infinity" else "Infinity"
  | .finite q => String.ofList (finiteText q)

/-- Digits padded on the left with zeros to a width. -/
def padZero (width : Nat) (n : Nat) : List Char :=
  let digits := digitsOf n
  List.replicate (width - digits.length) '0' ++ digits

/-- A count of thousandths written as whole units, a point and three places. -/
def thousandthsText (n : Nat) : List Char :=
  digitsOf (n / 1000) ++ '.' :: padZero 3 (n % 1000)

/-- A number with three places. From `10 ^ 21` on, the default text stands instead. -/
def fixedThree : Number → String
  | .finite q =>
    if tenPow 21 ≤ q.abs then text (.finite q)
    else
      let thousandths := thousandthsText (nearestUp (q.abs * 1000)).toNat
      String.ofList (if q < 0 then '-' :: thousandths else thousandths)
  | x => text x

end Sntp.Number
