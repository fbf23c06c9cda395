import Sntp.Text.Blank

/-!
# Terminal formatting

A formatting sequence is an escape character, an opening bracket, any number of digits and
semicolons, and an ASCII letter. `stripFormatting` deletes the sequences that one pass from left to
right finds.
-/

set_option autoImplicit false

namespace Sntp.Text

/-- The character that opens a formatting sequence. -/
def escape : Char := '\x1b'

/-- A character of the parameters of a formatting sequence. -/
def isParameter (c : Char) : Bool := c.isDigit || c == ';'

/-- The length of the formatting sequence that a text begins with. -/
def sequenceLength? : Chars → Option Nat
  | opening :: '[' :: rest =>
    if opening = escape then
      match rest.dropWhile isParameter with
      | final :: _ => if final.isAlpha then some ((rest.takeWhile isParameter).length + 3) else none
      | [] => none
    else none
  | _ => none

/-- Skips a number of characters, then deletes the formatting sequences from what follows. -/
def stripFrom : Nat → Chars → Chars
  | _, [] => []
  | skip + 1, _ :: rest => stripFrom skip rest
  | 0, c :: rest =>
    match sequenceLength? (c :: rest) with
    | some length => stripFrom (length - 1) rest
    | none => c :: stripFrom 0 rest

/-- A text without its formatting sequences, which are looked for from left to right. -/
def stripFormatting (text : Chars) : Chars := stripFrom 0 text

end Sntp.Text
