import MiniShell.Bytes

/-!
# Lossy decoding

Any byte string reads as a text. Where the bytes are not UTF-8 each maximal invalid part, that is
the longest start of some character that is not carried on, becomes one U+FFFD. The byte at which
it breaks off is read afresh.

The decoder goes over the bytes once. Between two bytes it remembers at most one character that
is begun and not yet finished.
-/

namespace MiniShell

/-- What stands in a decoded text for bytes that are no character. -/
def replacement : Char := Char.ofNat 0xFFFD

/-- A character that is begun: its bits so far, the number of bytes it still needs, and the range
of the first of those. -/
structure Begun where
  bits : Nat
  owed : Nat
  low : UInt8
  high : UInt8
  deriving DecidableEq, Repr

/-- The characters finished by the byte `b` at the start of a character, and the one it begins. -/
def decodeLead (b : UInt8) : List Char × Option Begun :=
  if b ≤ 0x7F then ([Char.ofNat b.toNat], none)
  else if 0xC2 ≤ b ∧ b ≤ 0xDF then ([], some ⟨b.toNat - 0xC0, 1, 0x80, 0xBF⟩)
  else if b = 0xE0 then ([], some ⟨0, 2, 0xA0, 0xBF⟩)
  else if b = 0xED then ([], some ⟨0xD, 2, 0x80, 0x9F⟩)
  else if 0xE1 ≤ b ∧ b ≤ 0xEF then ([], some ⟨b.toNat - 0xE0, 2, 0x80, 0xBF⟩)
  else if b = 0xF0 then ([], some ⟨0, 3, 0x90, 0xBF⟩)
  else if 0xF1 ≤ b ∧ b ≤ 0xF3 then ([], some ⟨b.toNat - 0xF0, 3, 0x80, 0xBF⟩)
  else if b = 0xF4 then ([], some ⟨4, 3, 0x80, 0x8F⟩)
  else ([replacement], none)

/-- The characters finished by one more byte, and the one that is begun after it. -/
def decodeByte : Option Begun → UInt8 → List Char × Option Begun
  | none, b => decodeLead b
  | some c, b =>
    if c.low ≤ b ∧ b ≤ c.high then
      let bits := c.bits * 64 + b.toNat % 64
      if c.owed ≤ 1 then ([Char.ofNat bits], none)
      else ([], some ⟨bits, c.owed - 1, 0x80, 0xBF⟩)
    else
      let (text, begun) := decodeLead b
      (replacement :: text, begun)

/-- The characters of a byte string that is read when `begun` is unfinished. -/
def decodeAfter (begun : Option Begun) : Bytes → List Char
  | [] => if begun.isSome then [replacement] else []
  | b :: bs =>
    let (text, next) := decodeByte begun b
    text ++ decodeAfter next bs

/-- The text of a byte string. -/
def decodeLossy (bytes : Bytes) : String := String.ofList (decodeAfter none bytes)

end MiniShell
