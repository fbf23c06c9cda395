/-!
# Character classes and trimming

The classes of characters that the program's texts are read by. Blanks are the Unicode space
separators, the ASCII white space controls, the two Unicode line terminators and the byte order
mark; digits, letters and the folding of case are ASCII. Texts are lists of characters here, and
strings only at the edges.
-/

set_option autoImplicit false

namespace Sntp.Text

/-- A text, character by character. -/
abbrev Chars := List Char

/-- White space. The next line control, the zero width space and the information separators do not
count as blank. -/
def isBlank (c : Char) : Bool :=
  (9 ≤ c.toNat && c.toNat ≤ 13) || c.toNat == 0x20 || c.toNat == 0xA0 || c.toNat == 0x1680
    || (0x2000 ≤ c.toNat && c.toNat ≤ 0x200A) || c.toNat == 0x2028 || c.toNat == 0x2029 || c.toNat == 0x202F
    || c.toNat == 0x205F || c.toNat == 0x3000 || c.toNat == 0xFEFF

/-- A character that ends a line. -/
def isLineEnd (c : Char) : Bool :=
  c == '\n' || c == '\r' || c.toNat == 0x2028 || c.toNat == 0x2029

/-- A text without the blanks at its start. -/
def trimLeft (text : Chars) : Chars := text.dropWhile isBlank

/-- A text without the blanks at its end. -/
def trimRight (text : Chars) : Chars := (text.reverse.dropWhile isBlank).reverse

/-- A text without the blanks around it. -/
def trim (text : Chars) : Chars := trimRight (trimLeft text)

/-- What remains of a text after a word that it begins with, the case of ASCII letters aside. -/
def afterWord? : Chars → Chars → Option Chars
  | [], rest => some rest
  | _ :: _, [] => none
  | w :: word, c :: rest => if c.toLower = w.toLower then afterWord? word rest else none

end Sntp.Text
