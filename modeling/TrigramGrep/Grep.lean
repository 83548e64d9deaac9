import TrigramGrep.Buffer
import TrigramGrep.Output
import TrigramGrep.View

/-!
# Searching a text and printing its matching lines

A matcher finds, in a buffer and from a position on, the match that starts first.  The search goes
from match to match: each match belongs to the line on which it starts, is counted once, and sends
the search to the beginning of the next line.  A match at the newline of a line, or at the end of a
last line without newline, belongs to that line; the empty buffer and the position after a final
newline belong to no line, and a match found there ends the search.

## Shape of the search

Each step looks for the next line with a match (`Grep.nextHit`).  The switches decide what follows: the name
of the file is printed and the search ends, the line is only counted, or it is printed with the spans of
all its matches (`Grep.spans`).  The line cut of `View` is applied first, and it must be the cut that
the index was built with.
-/

namespace TrigramGrep

/-- Finds the match that starts first at or after a position. -/
abbrev Matcher := Buffer → Nat → Option Span

namespace Grep

/-- The output switches. -/
structure Options where
  /-- Print only the number of matching lines of each file. -/
  count : Bool := false
  /-- Print only the names of files with a match. -/
  namesOnly : Bool := false
  /-- Print the number of each line. -/
  lineNumbers : Bool := false
  /-- Do not print the names of files. -/
  noFileName : Bool := false
  deriving DecidableEq, Repr

/-- A line with a match: its range without the newline, and the first match that starts on it. -/
structure Hit where
  line : Span
  first : Span
  deriving DecidableEq, Repr

/-- The next line with a match that starts at or after a position. -/
def nextHit (find : Matcher) (buffer : Buffer) (position : Nat) : Option Hit :=
  if position ≤ buffer.size then
    match find buffer position with
    | none => none
    | some found =>
      if found.start = buffer.size && buffer.isClosed then none
      else some
        { line := ⟨buffer.lineStart found.start, buffer.lineStop found.start⟩, first := found }
  else none

/-- Where the search for more matches on a line goes on after a match. -/
def afterMatch (found : Span) : Nat :=
  if found.start < found.stop then found.stop else found.stop + 1

/-- A match on a line as a span within it, the part beyond its end cut off. -/
def withinLine (line found : Span) : Span :=
  ⟨found.start - line.start, min found.stop line.stop - line.start⟩

/-- The spans of the non-empty matches that start on a line at or after a position, found in at most
`fuel` steps. -/
def spansFrom (find : Matcher) (buffer : Buffer) (line : Span) : Nat → Nat → List Span
  | 0, _ => []
  | fuel + 1, position =>
    if position < line.stop then
      match find buffer position with
      | none => []
      | some found =>
        if line.stop ≤ found.start then []
        else if found.start < found.stop then
          withinLine line found :: spansFrom find buffer line fuel found.stop
        else spansFrom find buffer line fuel (found.stop + 1)
    else []

/-- The spans of the matches on a line.  Every step moves on, so there are no more of them than
positions. -/
def spans (find : Matcher) (buffer : Buffer) (hit : Hit) : List Span :=
  withinLine hit.line hit.first ::
    spansFrom find buffer hit.line (buffer.size + 1) (afterMatch hit.first)

/-- The bytes of a range of a buffer. -/
def bytesOf (buffer : Buffer) (range : Span) : Bytes :=
  (buffer.extract range.start range.stop).toList

/-- How far a search has come. -/
structure Progress where
  /-- Where the next match is looked for. -/
  position : Nat := 0
  /-- The number of lines with a match. -/
  count : Nat := 0
  /-- The number of the line that begins at `counted`.  Both stay as they are where no numbers are printed. -/
  number : Nat := 1
  counted : Nat := 0
  deriving DecidableEq, Repr

/-- The search behind a line with a match. -/
def Progress.after (p : Progress) (options : Options) (buffer : Buffer) (hit : Hit) : Progress :=
  let p := { p with position := hit.line.stop + 1, count := p.count + 1 }
  if !options.count && options.lineNumbers then
    { p with
      number := p.number + buffer.newlines p.counted (hit.line.start - p.counted)
      counted := hit.line.start }
  else p

/-- What is printed of a line with a match; `number` is its number. -/
def printHit (find : Matcher) (options : Options) (name : Option String) (buffer : Buffer) (number : Nat)
    (hit : Hit) : List Stroke :=
  if options.count then []
  else
    Output.matchLine name (if options.lineNumbers then some number else none) (bytesOf buffer hit.line)
      (spans find buffer hit)

/-- What is printed of a text from where a search has come to, and whether there is one more line with a
match; the search goes on over at most `fuel` lines. -/
def searchFrom (find : Matcher) (options : Options) (name : String) (buffer : Buffer) :
    (fuel : Nat) → Progress → List Stroke × Bool
  | 0, p => (ending options name p, false)
  | fuel + 1, p =>
    match nextHit find buffer p.position with
    | none => (ending options name p, false)
    | some hit =>
      if options.namesOnly then (Output.nameLine name, true)
      else
        let next := p.after options buffer hit
        let printed := printHit find options (shown options name) buffer next.number hit
        (printed ++ (searchFrom find options name buffer fuel next).1, true)
where
  /-- The name of the text, if it is printed. -/
  shown (options : Options) (name : String) : Option String :=
    if options.noFileName then none else some name
  /-- What is printed in the end. -/
  ending (options : Options) (name : String) (p : Progress) : List Stroke :=
    if options.count && 0 < p.count then Output.countLine (shown options name) p.count else []

/-- What is printed of a text, and whether a line of it matches.  The search moves on with every line, so
there are no more of them than positions. -/
def search (find : Matcher) (options : Options) (maxLineLength : Nat) (name : String)
    (content : Bytes) : List Stroke × Bool :=
  let buffer : Buffer := (View.view content maxLineLength).toArray
  searchFrom find options name buffer (buffer.size + 1) {}

end Grep

end TrigramGrep
