import Sntp.Text.Formatting

/-!
# Text that complains

A command that fails does not always say so by its exit code. Its output counts as a complaint when,
formatting aside, one of a few phrases stands in it as words of their own, in any case.
-/

set_option autoImplicit false

namespace Sntp.Text

/-- A character of a word: an ASCII letter or digit or the underscore. -/
def isWordCharacter (c : Char) : Bool := c.isAlphanum || c == '_'

/-- The phrases that make an output a complaint. -/
def complaintPhrases : List Chars :=
  ["failed", "exception", "invalid", "operation not permitted", "not permitted", "cannot", "illegal", "usage"].map
    String.toList

/-- Whether no word goes on at the start of a text. -/
def startsOutsideWord : Chars → Bool
  | [] => true
  | c :: _ => !isWordCharacter c

/-- Whether a text begins with a phrase that ends where a word ends. -/
def beginsWithPhrase (text phrase : Chars) : Bool :=
  match afterWord? phrase text with
  | some rest => startsOutsideWord rest
  | none => false

/-- Whether a phrase begins somewhere in a text where a word begins; `inside` tells whether a word
runs up to the text. -/
def mentionsComplaint (inside : Bool) : Chars → Bool
  | [] => false
  | c :: rest =>
    (!inside && complaintPhrases.any (beginsWithPhrase (c :: rest))) || mentionsComplaint (isWordCharacter c) rest

/-- Whether a text, its formatting aside, mentions a complaint. -/
def isComplaint (text : Chars) : Bool := mentionsComplaint false (stripFormatting text)

end Sntp.Text
