import TrigramGrep.Buffer
import TrigramGrep.Regex.Basic
import TrigramGrep.Unicode.Property

/-!
# Conditions on positions

Whether a line or a word has an edge at a position of a text depends on what stands on both sides of
it.  Lines are seen in bytes; words are seen in bytes, too, when they are words of ASCII, and in
characters when they are words of Unicode.

## Broken characters

A text need not be valid UTF-8.  A broken character belongs to no word.  The conditions that ask for no
word on a side hold only next to a whole character, so that none of them holds within one.  Backwards,
the character in front of a position is looked for at the nearest byte that can begin one, and bytes
between it and the position are passed over.
-/

namespace TrigramGrep

namespace Buffer

/-- The character that begins at a position, and the number of bytes it takes, all in front of `stop`. -/
def character? (buffer : Buffer) (position stop : Nat) : Option (Char × Nat) :=
  match Text.Utf8.front (buffer.extract position (min (position + 4) stop)).toList with
  | some (.ok found) => some found
  | _ => none

/-- Whether the byte at a position only continues a character. -/
def continuesAt (buffer : Buffer) (position : Nat) : Bool :=
  (buffer[position]?).any Text.Utf8.isContinuation

/-- The nearest position, going back at most `steps` from a byte, at which a character can begin. -/
def beginning (buffer : Buffer) : (steps position : Nat) → Nat
  | 0, position => position
  | steps + 1, position =>
    if buffer.continuesAt position then
      match position with
      | 0 => 0
      | position + 1 => beginning buffer steps position
    else position

/-- The character in front of a position. -/
def characterBefore? (buffer : Buffer) (position : Nat) : Option (Char × Nat) :=
  match position with
  | 0 => none
  | last + 1 => character? buffer (buffer.beginning 3 last) position

/-- Whether a byte stands at a position. -/
def byteAt (buffer : Buffer) (position : Nat) (byte : UInt8) : Bool :=
  buffer[position]? == some byte

/-- Whether a byte stands in front of a position. -/
def byteBefore (buffer : Buffer) (position : Nat) (byte : UInt8) : Bool :=
  match position with
  | 0 => false
  | last + 1 => buffer.byteAt last byte

end Buffer

/-! ## Lines -/

/-- Whether a line begins at a position. -/
def LineMode.startsAt (mode : LineMode) (buffer : Buffer) (position : Nat) : Bool :=
  match mode with
  | .whole => position = 0
  | .newline => position = 0 || buffer.byteBefore position 10
  | .crlf =>
    position = 0 || buffer.byteBefore position 10 ||
      (buffer.byteBefore position 13 && !buffer.byteAt position 10)

/-- Whether a line ends at a position. -/
def LineMode.stopsAt (mode : LineMode) (buffer : Buffer) (position : Nat) : Bool :=
  match mode with
  | .whole => position = buffer.size
  | .newline => position = buffer.size || buffer.byteAt position 10
  | .crlf =>
    position = buffer.size || buffer.byteAt position 13 ||
      (buffer.byteAt position 10 && !buffer.byteBefore position 13)

/-! ## Words -/

/-- What stands on a side of a position. -/
inductive Neighbour where
  /-- Nothing: the text begins or ends here. -/
  | edge
  /-- A broken character. -/
  | broken
  /-- A character of a word. -/
  | inWord
  /-- Another character. -/
  | other
  deriving DecidableEq, Repr

namespace Neighbour

/-- Whether a neighbour belongs to a word. -/
def isWord (n : Neighbour) : Bool := n = .inWord

/-- A character as a neighbour. -/
def ofCharacter : Option (Char × Nat) → Neighbour
  | none => .broken
  | some (c, _) => if Unicode.wordCharacters.contains c.toNat then .inWord else .other

/-- Whether a byte belongs to words of ASCII. -/
def isWordByte (byte : UInt8) : Bool :=
  (48 ≤ byte && byte ≤ 57) || (65 ≤ byte && byte ≤ 90) || byte = 95 || (97 ≤ byte && byte ≤ 122)

/-- A byte as a neighbour. -/
def ofByte : Option UInt8 → Neighbour
  | none => .edge
  | some byte => if isWordByte byte then .inWord else .other

/-- What stands in front of a position. -/
def before (unicode : Bool) (buffer : Buffer) (position : Nat) : Neighbour :=
  match position with
  | 0 => .edge
  | last + 1 =>
    if unicode then ofCharacter (buffer.characterBefore? position) else ofByte buffer[last]?

/-- What stands behind a position. -/
def behind (unicode : Bool) (buffer : Buffer) (position : Nat) : Neighbour :=
  if position < buffer.size then
    if unicode then ofCharacter (buffer.character? position buffer.size) else ofByte buffer[position]?
  else .edge

end Neighbour

/-- Whether what is asked of an edge holds between two neighbours. -/
def WordEdge.holdsBetween (edge : WordEdge) (before behind : Neighbour) : Bool :=
  match edge with
  | .boundary => before.isWord != behind.isWord
  | .noBoundary => before ≠ .broken && behind ≠ .broken && before.isWord == behind.isWord
  | .start => !before.isWord && behind.isWord
  | .stop => before.isWord && !behind.isWord
  | .startHalf => before ≠ .broken && !before.isWord
  | .stopHalf => behind ≠ .broken && !behind.isWord

/-- Whether a condition holds at a position of a text. -/
def Look.holdsAt (condition : Look) (buffer : Buffer) (position : Nat) : Bool :=
  match condition with
  | .lineStart mode => mode.startsAt buffer position
  | .lineStop mode => mode.stopsAt buffer position
  | .word edge unicode =>
    edge.holdsBetween (Neighbour.before unicode buffer position)
      (Neighbour.behind unicode buffer position)

end TrigramGrep
