import Sntp.Text.Blank

/-!
# Reading UTF-8

Bytes are read as UTF-8, and each maximal part that no character begins with, or that breaks off
inside one, becomes one replacement character. A byte order mark is kept.
-/

set_option autoImplicit false

namespace Sntp

/-- A run of bytes. -/
abbrev Bytes := List UInt8

namespace Text

/-- What stands for bytes that are no character. -/
def replacement : Char := '\ufffd'

/-- A character of which some bytes were read: how many are still to come, the range that the next
one must be in, and the bits so far. -/
structure OpenCharacter where
  missing : Nat
  low : Nat
  high : Nat
  bits : Nat

/-- Reads a byte that begins a character: the character, if that is all of it, or an open one. Where
the second byte has a narrower range than usual, the wide range would allow overlong forms,
surrogates, or code points past the last one. -/
def firstByte (b : Nat) : Chars × Option OpenCharacter :=
  if b < 0x80 then ([Char.ofNat b], none)
  else if 0xC2 ≤ b ∧ b ≤ 0xDF then ([], some ⟨1, 0x80, 0xBF, b - 0xC0⟩)
  else if b = 0xE0 then ([], some ⟨2, 0xA0, 0xBF, b - 0xE0⟩)
  else if b = 0xED then ([], some ⟨2, 0x80, 0x9F, b - 0xE0⟩)
  else if 0xE1 ≤ b ∧ b ≤ 0xEF then ([], some ⟨2, 0x80, 0xBF, b - 0xE0⟩)
  else if b = 0xF0 then ([], some ⟨3, 0x90, 0xBF, b - 0xF0⟩)
  else if b = 0xF4 then ([], some ⟨3, 0x80, 0x8F, b - 0xF0⟩)
  else if 0xF1 ≤ b ∧ b ≤ 0xF3 then ([], some ⟨3, 0x80, 0xBF, b - 0xF0⟩)
  else ([replacement], none)

/-- Reads one more byte, the open character standing before it. A byte out of range ends the open
character and is itself read as a first byte. -/
def nextByte (character : Option OpenCharacter) (b : Nat) : Chars × Option OpenCharacter :=
  match character with
  | none => firstByte b
  | some c =>
    if c.low ≤ b ∧ b ≤ c.high then
      let bits := 64 * c.bits + (b - 0x80)
      match c.missing with
      | 0 | 1 => ([Char.ofNat bits], none)
      | missing + 2 => ([], some ⟨missing + 1, 0x80, 0xBF, bits⟩)
    else
      let (read, rest) := firstByte b
      (replacement :: read, rest)

/-- Reads bytes after an open character. -/
def readUtf8 : Option OpenCharacter → Bytes → Chars
  | none, [] => []
  | some _, [] => [replacement]
  | character, b :: rest =>
    let (read, next) := nextByte character b.toNat
    read ++ readUtf8 next rest

/-- The text that bytes write in UTF-8. -/
def ofUtf8 (bytes : Bytes) : Chars := readUtf8 none bytes

end Text

end Sntp
