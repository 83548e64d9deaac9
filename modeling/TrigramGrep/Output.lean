import TrigramGrep.Bytes

/-!
# Results as they are printed

Everything that is printed is a sequence of strokes, each a run of bytes in one style.  How a stroke
reaches the sink is decided at the end: a sink with colour gets an escape sequence before a styled
stroke and a reset after it, one without colour gets the bytes alone (`Stroke.render`).  So what a
line says and how it looks can be spoken of apart: `Stroke.bytes` is the text, and the colourless
rendering of a sequence is the text of its strokes.

## Lines and spans

A matching line is printed with its spans in red.  A span may be anything: its start is moved into
what is left of the line, then its end behind its start (`highlight`), so that every byte of the line
is printed once whatever the spans are.
-/

namespace TrigramGrep

/-- A range of positions, the end not included. -/
structure Span where
  start : Nat
  stop : Nat
  deriving DecidableEq, Repr, Inhabited

/-- The looks that a run of bytes can have. -/
inductive Style where
  /-- As the sink prints by itself. -/
  | plain
  /-- The name of a file. -/
  | fileName
  /-- The number of a line. -/
  | lineNumber
  /-- A part of a line that matches. -/
  | highlighted
  deriving DecidableEq, Repr

/-- A run of bytes in one style. -/
structure Stroke where
  style : Style
  bytes : Bytes
  deriving DecidableEq, Repr

namespace Stroke

/-- Bytes without a style of their own. -/
def ofPlain (bytes : Bytes) : Stroke := ⟨.plain, bytes⟩

/-- The sequence that ends every style. -/
def reset : Bytes := [0x1B] ++ Bytes.ofString "[0m"

/-- The sequences that start a style; each clears the one before first. -/
def opening : Style → Bytes
  | .plain => []
  | .fileName => reset ++ [0x1B] ++ Bytes.ofString "[35m"
  | .lineNumber => reset ++ [0x1B] ++ Bytes.ofString "[32m"
  | .highlighted => reset ++ [0x1B] ++ Bytes.ofString "[1m" ++ [0x1B] ++ Bytes.ofString "[31m"

/-- The bytes of a stroke for a sink with or without colour. -/
def render (color : Bool) (stroke : Stroke) : Bytes :=
  if color && stroke.style != .plain then opening stroke.style ++ stroke.bytes ++ reset
  else stroke.bytes

end Stroke

namespace Output

/-- The bytes of a sequence of strokes for a sink with or without colour. -/
def render (color : Bool) (strokes : List Stroke) : Bytes :=
  strokes.flatMap (Stroke.render color)

/-- The text of a sequence of strokes, whatever their styles. -/
def text (strokes : List Stroke) : Bytes :=
  strokes.flatMap Stroke.bytes

/-- A number in decimal digits. -/
def decimal (n : Nat) : Bytes := Bytes.ofString (toString n)

/-- The end of a line. -/
def lineEnd : Stroke := .ofPlain [Bytes.newline]

/-- The name of a file and a colon, if a name is shown. -/
def nameLabel : Option String → List Stroke
  | none => []
  | some name => [⟨.fileName, Bytes.ofString name⟩, .ofPlain (Bytes.ofString ":")]

/-- The number of a line and a colon, if a number is shown. -/
def numberLabel : Option Nat → List Stroke
  | none => []
  | some number => [⟨.lineNumber, decimal number⟩, .ofPlain (Bytes.ofString ":")]

/-- The name of a file on a line of its own. -/
def nameLine (name : String) : List Stroke :=
  [⟨.fileName, Bytes.ofString name⟩, lineEnd]

/-- A count on a line of its own, behind the name of the file if that is shown. -/
def countLine (name : Option String) (count : Nat) : List Stroke :=
  nameLabel name ++ [.ofPlain (decimal count), lineEnd]

/-- A position moved into a range. -/
def clamp (position low high : Nat) : Nat :=
  max low (min position high)

/-- The strokes of the part of a line from `position` on, its spans highlighted. -/
def highlight (line : Bytes) (position : Nat) : List Span → List Stroke
  | [] => [.ofPlain (line.drop position)]
  | span :: spans =>
    let start := clamp span.start position line.length
    let stop := clamp span.stop start line.length
    .ofPlain ((line.take start).drop position) ::
      ((if start < stop then [⟨.highlighted, (line.take stop).drop start⟩] else []) ++
        highlight line stop spans)

/-- A matching line, behind the name of its file and its number as far as they are shown. -/
def matchLine (name : Option String) (number : Option Nat) (line : Bytes) (spans : List Span) :
    List Stroke :=
  nameLabel name ++ numberLabel number ++ highlight line 0 spans ++ [lineEnd]

end Output

end TrigramGrep
