import Sntp.Number.Rounding
import Sntp.Text.Blank

/-!
# Reading numbers

Two grammars are read. A plain integer (`plainInteger?`) is an optional sign and ASCII digits and
nothing else. A numeral (`Number.ofNumeral?`) may have blanks around it and be a decimal with
fraction and exponent, an unsigned hexadecimal, octal or binary integer, or an infinity; the empty
text is zero.
-/

set_option autoImplicit false

namespace Sntp

open Text

/-- The integer that a text of an optional sign and ASCII digits writes. -/
def plainInteger? (text : Chars) : Option Int :=
  let (negative, digits) := match text with
    | '-' :: rest => (true, rest)
    | '+' :: rest => (false, rest)
    | _ => (false, text)
  if digits ≠ [] ∧ digits.all Char.isDigit then
    some (if negative then -(Nat.ofDigitChars 10 digits 0 : Int) else Nat.ofDigitChars 10 digits 0)
  else none

namespace Number

/-- The value of a digit in a base of at most 16. -/
def digitValue? (base : Nat) (c : Char) : Option Nat :=
  let value :=
    if c.isDigit then c.toNat - '0'.toNat
    else if 'a' ≤ c.toLower ∧ c.toLower ≤ 'f' then c.toLower.toNat - 'a'.toNat + 10
    else 16
  if value < base then some value else none

/-- The natural number that one or more digits of a base write. -/
def ofDigits? (base : Nat) (digits : Chars) : Option Nat :=
  if digits = [] then none
  else digits.foldl (fun value c => do return base * (← value) + (← digitValue? base c)) (some 0)

/-- The exponent part at the end of a decimal: nothing, or a letter `e` and an integer. -/
def exponent? : Chars → Option Int
  | [] => some 0
  | c :: rest => if c = 'e' ∨ c = 'E' then plainInteger? rest else none

/-- An unsigned decimal: digits with an optional point among or around them, at least one digit, and
an optional exponent. -/
def ofDecimal? (text : Chars) : Option Number := do
  let whole := text.takeWhile Char.isDigit
  let afterWhole := text.dropWhile Char.isDigit
  let afterPoint := match afterWhole with
    | '.' :: rest => rest
    | _ => []
  let hasPoint := afterWhole.head? = some '.'
  let places := afterPoint.takeWhile Char.isDigit
  let digits := whole ++ places
  let rest := if hasPoint then afterPoint.dropWhile Char.isDigit else afterWhole
  if digits = [] then none
  else return ofDecimal (Nat.ofDigitChars 10 digits 0) ((← exponent? rest) - places.length)

/-- A decimal or the word for infinity, with an optional sign. -/
def ofSigned? (text : Chars) : Option Number :=
  let unsigned? (rest : Chars) : Option Number :=
    if rest = "Infinity".toList then some (.infinite false) else ofDecimal? rest
  match text with
  | '-' :: rest => (unsigned? rest).map neg
  | '+' :: rest => unsigned? rest
  | _ => unsigned? text

/-- The number that a text writes, rounded to double precision, or nothing if it is no numeral. -/
def ofNumeral? (text : Chars) : Option Number :=
  let natural? (base : Nat) (digits : Chars) : Option Number := (ofDigits? base digits).map fun n => ofDecimal n 0
  match trim text with
  | [] => some 0
  | '0' :: 'x' :: rest | '0' :: 'X' :: rest => natural? 16 rest
  | '0' :: 'o' :: rest | '0' :: 'O' :: rest => natural? 8 rest
  | '0' :: 'b' :: rest | '0' :: 'B' :: rest => natural? 2 rest
  | plain => ofSigned? plain

end Number

end Sntp
