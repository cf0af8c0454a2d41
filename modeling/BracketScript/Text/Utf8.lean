/-!
# Texts as bytes

A text is sent and stored as its UTF-8 bytes. Reading is strict, or puts the replacement character
where the bytes are not UTF-8.

## Main definitions

* `Bytes`: a sequence of bytes
* `Bytes.ofString`, `Bytes.toString?`: a text as its bytes and back
* `Bytes.toStringLossy`: the text of any bytes, each longest piece that starts a character without
  completing it shown as U+FFFD
-/

namespace BracketScript

/-- A sequence of bytes. -/
abbrev Bytes := List UInt8

namespace Bytes

/-- The UTF-8 bytes of a text. -/
def ofString (s : String) : Bytes := s.toUTF8.toList

/-- The text that the bytes encode, if they are UTF-8. -/
def toString? (bytes : Bytes) : Option String :=
  String.fromUTF8? ⟨bytes.toArray⟩

/-- How many bytes must follow a first byte, and the least and the greatest value allowed for the
one right after it. -/
def continuation (first : UInt8) : Option (Nat × UInt8 × UInt8) :=
  if 0xc2 ≤ first && first ≤ 0xdf then some (1, 0x80, 0xbf)
  else if first == 0xe0 then some (2, 0xa0, 0xbf)
  else if first == 0xed then some (2, 0x80, 0x9f)
  else if 0xe1 ≤ first && first ≤ 0xef then some (2, 0x80, 0xbf)
  else if first == 0xf0 then some (3, 0x90, 0xbf)
  else if first == 0xf4 then some (3, 0x80, 0x8f)
  else if 0xf1 ≤ first && first ≤ 0xf3 then some (3, 0x80, 0xbf)
  else none

/-- How a byte sequence is read on: `pending` holds the bytes of a character that is not complete,
the last one first, of which `missing` bytes are still to come, the next one from `low` to
`high`. -/
structure Partial where
  /-- Bytes still to come. -/
  missing : Nat
  /-- The least value allowed for the next one. -/
  low : UInt8
  /-- The greatest value allowed for the next one. -/
  high : UInt8
  /-- The bytes read, the last one first. -/
  pending : Bytes

/-- The UTF-8 bytes of U+FFFD, the last one first. -/
def replacement : Bytes := [0xbd, 0xbf, 0xef]

/-- Starts a character at a byte; `out` holds the bytes written, the last one first. -/
def startCharacter (out : Bytes) (b : UInt8) : Option Partial × Bytes :=
  if b < 0x80 then (none, b :: out)
  else match continuation b with
    | some (missing, low, high) => (some ⟨missing, low, high, [b]⟩, out)
    | none => (none, replacement ++ out)

/-- Reads one more byte. -/
def readLossy (state : Option Partial × Bytes) (b : UInt8) : Option Partial × Bytes :=
  match state with
  | (none, out) => startCharacter out b
  | (some p, out) =>
    if p.low ≤ b && b ≤ p.high then
      if p.missing ≤ 1 then (none, b :: p.pending ++ out)
      else (some ⟨p.missing - 1, 0x80, 0xbf, b :: p.pending⟩, out)
    else startCharacter (replacement ++ out) b

/-- The text of any bytes: each longest piece that starts a character without completing it, and
each byte that starts none, is shown as U+FFFD. -/
def toStringLossy (bytes : Bytes) : String :=
  match bytes.foldl readLossy (none, []) with
  | (none, out) => (toString? out.reverse).getD ""
  | (some _, out) => (toString? (replacement ++ out).reverse).getD ""

end Bytes

end BracketScript
