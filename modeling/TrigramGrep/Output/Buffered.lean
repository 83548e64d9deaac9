import TrigramGrep.Output

/-!
# Output that waits for its file

What is printed to a file does not get there at once.  It waits until there is too much of it, and then all
of it goes to the file together.  Who reads the file in the meantime sees only what has gone there, so this
is part of what a search finds when the file is among those that are searched.
-/

namespace TrigramGrep.Output

/-- Output on its way to a file. -/
structure Buffered where
  /-- What has gone to the file, piece by piece, the last one first. -/
  gone : List Bytes := []
  /-- What waits, piece by piece, the last one first. -/
  waiting : List Bytes := []
  deriving Repr

namespace Buffered

/-- The most bytes that can wait. -/
def capacity : Nat := 8192

/-- The bytes of pieces of which the last one comes first. -/
def bytesOf (pieces : List Bytes) : Bytes := pieces.reverse.flatten

/-- How many bytes wait. -/
def size (b : Buffered) : Nat := b.waiting.foldl (fun n piece => n + piece.length) 0

/-- What is in the file. -/
def content (b : Buffered) : Bytes := bytesOf b.gone

/-- The output when nothing waits any more. -/
def flush (b : Buffered) : Buffered := { gone := b.waiting ++ b.gone }

/-- Takes a piece.  If there is no room for it, what waits goes first, and a piece that has never room goes
behind it. -/
def put (b : Buffered) (piece : Bytes) : Buffered :=
  let b := if capacity < b.size + piece.length then b.flush else b
  let b := { b with waiting := piece :: b.waiting }
  if capacity ≤ piece.length then b.flush else b

/-- Takes the pieces of strokes, all without colour. -/
def putAll (b : Buffered) (strokes : List Stroke) : Buffered :=
  strokes.foldl (fun b stroke => b.put stroke.bytes) b

end Buffered

end TrigramGrep.Output
