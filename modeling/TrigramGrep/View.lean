import TrigramGrep.Bytes
import TrigramGrep.Text.Utf8

/-!
# The searchable view of a text

Very long lines are cut before a text is indexed, and again, in the same way, before it is searched:
what the index never saw must not be found.  The view of a text keeps every newline, so that line
numbers do not move, and at most `limit` bytes of every line before it; a limit of zero means no cut.

A text is worth indexing when it is valid UTF-8 and holds no NUL byte.
-/

namespace TrigramGrep.View

/-- Whether the line that began at `start`, or one behind it, has more than `limit` bytes before its
newline; the text is what is left from `position` on. -/
def longLineFrom (limit start position : Nat) : Bytes → Bool
  | [] => limit < position - start
  | byte :: rest =>
    if byte = Bytes.newline then
      limit < position - start || longLineFrom limit (position + 1) (position + 1) rest
    else longLineFrom limit start (position + 1) rest

/-- Whether some line has more than `limit` bytes before its newline. -/
def hasLongLine (text : Bytes) (limit : Nat) : Bool :=
  longLineFrom limit 0 0 text

/-- A line cut to `limit` bytes, with the newline that ends it, if one does. -/
def cutLine (limit : Nat) (line : Bytes) : Bytes :=
  if line.endsInNewline then line.body.take limit ++ [Bytes.newline] else line.take limit

/-- The view of a text, when some line of it has to be cut. -/
def cut? (text : Bytes) (limit : Nat) : Option Bytes :=
  if limit = 0 || !hasLongLine text limit then none
  else some (text.lines.flatMap (cutLine limit))

/-- The part of a text that is indexed and searched. -/
def view (text : Bytes) (limit : Nat) : Bytes :=
  (cut? text limit).getD text

/-- Whether a text is worth indexing: valid UTF-8 without a NUL byte. -/
def isText (text : Bytes) : Bool :=
  !text.contains 0 && Text.Utf8.isValid text

end TrigramGrep.View
