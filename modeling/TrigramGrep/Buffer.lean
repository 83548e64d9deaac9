import TrigramGrep.Bytes

/-!
# Texts for access by position

The search for matches and the lines around them need the bytes of a text by position, so the text is
laid out in an array.  A line goes from the position behind a newline up to the next one; the newline
itself is its end.
-/

namespace TrigramGrep

/-- A text laid out for access by position. -/
abbrev Buffer := Array UInt8

namespace Buffer

/-- Whether a newline stands at a position. -/
def newlineAt (buffer : Buffer) (position : Nat) : Bool :=
  buffer[position]? == some Bytes.newline

/-- The beginning of the line on which a position lies. -/
def lineStart (buffer : Buffer) : Nat → Nat
  | 0 => 0
  | position + 1 =>
    if newlineAt buffer position then position + 1 else lineStart buffer position

/-- The first newline at or after a position, or the end of the buffer. -/
def lineStop (buffer : Buffer) (position : Nat) : Nat :=
  if position < buffer.size then
    if newlineAt buffer position then position else lineStop buffer (position + 1)
  else buffer.size
termination_by buffer.size - position

/-- The number of newlines among `count` positions from `start` on. -/
def newlines (buffer : Buffer) (start : Nat) : Nat → Nat
  | 0 => 0
  | count + 1 =>
    newlines buffer start count + if newlineAt buffer (start + count) then 1 else 0

/-- Whether a buffer has no unfinished last line: it is empty or ends in a newline. -/
def isClosed (buffer : Buffer) : Bool :=
  buffer.isEmpty || buffer.back? == some Bytes.newline

end Buffer

end TrigramGrep
