import TrigramGrep.Pattern.Node

/-!
# What is wrong with a pattern

A fault has a cause, the stretch of the pattern that shows it, and sometimes a second stretch that it
clashes with.  `Fault.message` prints the pattern with carets under these stretches and the cause
below.  A pattern of several lines is printed between rulers and with its lines numbered; a stretch
that runs over several lines gets no carets and is named below by lines and columns.
-/

namespace TrigramGrep.Pattern

/-- How deep the nodes of a pattern may be nested. -/
def nestLimit : Nat := 250

/-- Why a pattern cannot be read. -/
inductive Cause where
  | classEscape
  | classRangeOrder
  | classRangeEnd
  | classUnclosed
  | decimalInvalid
  | hexEmpty
  | hexNoCharacter
  | hexDigit
  | escapeUnfinished
  | escapeUnknown
  | flagNegationDangling
  | flagDuplicate
  | flagNegationRepeated
  | flagUnfinished
  | flagUnknown
  | groupNameDuplicate
  | groupNameEmpty
  | groupNameInvalid
  | groupNameUnclosed
  | groupUnclosed
  | groupUnopened
  | nestedTooDeep
  | countOrder
  | countMissing
  | countUnclosed
  | wordEdgeUnclosed
  | wordEdgeUnknown
  | wordEdgeOrCountUnfinished
  | repetitionOfNothing
  | propertyInvalid
  | backreference
  | lookAround
  | unicodeNotAllowed
  | propertyUnknown
  | propertyValueUnknown
  deriving DecidableEq, Repr

namespace Cause

/-- A cause in words. -/
def message : Cause → String
  | .classEscape => "invalid escape sequence found in character class"
  | .classRangeOrder => "invalid character class range, the start must be <= the end"
  | .classRangeEnd => "invalid range boundary, must be a literal"
  | .classUnclosed => "unclosed character class"
  | .decimalInvalid => "decimal literal invalid"
  | .hexEmpty => "hexadecimal literal empty"
  | .hexNoCharacter => "hexadecimal literal is not a Unicode scalar value"
  | .hexDigit => "invalid hexadecimal digit"
  | .escapeUnfinished => "incomplete escape sequence, reached end of pattern prematurely"
  | .escapeUnknown => "unrecognized escape sequence"
  | .flagNegationDangling => "dangling flag negation operator"
  | .flagDuplicate => "duplicate flag"
  | .flagNegationRepeated => "flag negation operator repeated"
  | .flagUnfinished => "expected flag but got end of regex"
  | .flagUnknown => "unrecognized flag"
  | .groupNameDuplicate => "duplicate capture group name"
  | .groupNameEmpty => "empty capture group name"
  | .groupNameInvalid => "invalid capture group character"
  | .groupNameUnclosed => "unclosed capture group name"
  | .groupUnclosed => "unclosed group"
  | .groupUnopened => "unopened group"
  | .nestedTooDeep =>
    "exceed the maximum number of nested parentheses/brackets (" ++ toString nestLimit ++ ")"
  | .countOrder => "invalid repetition count range, the start must be <= the end"
  | .countMissing => "repetition quantifier expects a valid decimal"
  | .countUnclosed => "unclosed counted repetition"
  | .wordEdgeUnclosed =>
    "special word boundary assertion is either unclosed or contains an invalid character"
  | .wordEdgeUnknown =>
    "unrecognized special word boundary assertion, valid choices are: start, end, start-half " ++
      "or end-half"
  | .wordEdgeOrCountUnfinished =>
    "found either the beginning of a special word boundary or a bounded repetition on a \\b with " ++
      "an opening brace, but no closing brace"
  | .repetitionOfNothing => "repetition operator missing expression"
  | .propertyInvalid => "invalid Unicode character class"
  | .backreference => "backreferences are not supported"
  | .lookAround => "look-around, including look-ahead and look-behind, is not supported"
  | .unicodeNotAllowed => "Unicode not allowed here"
  | .propertyUnknown => "Unicode property not found"
  | .propertyValueUnknown => "Unicode property value not found"

end Cause

/-- A cause and where it shows. -/
structure Fault where
  cause : Cause
  extent : Extent
  /-- The earlier stretch that the fault clashes with. -/
  other : Option Extent := none
  deriving DecidableEq, Repr

/-! ## Lines and columns -/

/-- A place in a pattern by line and column, both counted from one. -/
structure Place where
  line : Nat
  column : Nat
  deriving DecidableEq, Repr

/-- The place of the character at an offset. -/
def placeOf (pattern : List Char) (offset : Nat) : Place :=
  let before := pattern.take offset
  ⟨before.count '\n' + 1, (before.reverse.takeWhile (· ≠ '\n')).length + 1⟩

/-- The lines of a pattern, without their ends; `line` holds what was read of the first, the last
character first.  Nothing behind the last newline is no line. -/
def linesFrom (line : List Char) : List Char → List (List Char)
  | [] => if line.isEmpty then [] else [line.reverse]
  | c :: rest =>
    if c = '\n' then
      (if line.head? = some '\r' then line.drop 1 else line).reverse :: linesFrom [] rest
    else linesFrom (c :: line) rest

/-- The stretches of a fault, in the order in which they stand in the pattern. -/
def Fault.extents (fault : Fault) : List Extent :=
  (fault.extent :: fault.other.toList).mergeSort fun a b =>
    decide (a.start < b.start) || (decide (a.start = b.start) && decide (a.stop ≤ b.stop))

/-- A stretch by the places where it starts and stops. -/
def placesOf (pattern : List Char) (extent : Extent) : Place × Place :=
  (placeOf pattern extent.start, placeOf pattern extent.stop)

/-- A row of carets under stretches of one line; `column` is the number of signs written so far. -/
def carets : (column : Nat) → List (Place × Place) → String
  | _, [] => ""
  | column, (start, stop) :: rest =>
    let gap := start.column - 1 - column
    let width := max 1 (stop.column - start.column)
    "".pushn ' ' gap ++ "".pushn '^' width ++ carets (column + gap + width) rest

/-- The lines of a pattern, each with the carets that belong under it; `number` is what to print in
front of a line, and `margin` how far to move the carets. -/
def annotate (number : Nat → String) (margin : Nat) (marks : List (Place × Place)) :
    (line : Nat) → List (List Char) → String
  | _, [] => ""
  | line, text :: rest =>
    let here := marks.filter fun mark => mark.1.line = line
    number line ++ String.ofList text ++ "\n" ++
      (if here.isEmpty then "" else "".pushn ' ' margin ++ carets 0 here ++ "\n") ++
      annotate number margin marks (line + 1) rest

/-- A number in decimal, filled with blanks on the left. -/
def padLeft (width n : Nat) : String :=
  let digits := toString n
  "".pushn ' ' (width - digits.length) ++ digits

/-- A stretch over several lines in words. -/
def describe (mark : Place × Place) : String :=
  "on line " ++ toString mark.1.line ++ " (column " ++ toString mark.1.column ++
    ") through line " ++ toString mark.2.line ++ " (column " ++ toString (mark.2.column - 1) ++ ")"

namespace Fault

/-- A fault in a pattern, shown under the pattern. -/
def message (fault : Fault) (text : String) : String :=
  let pattern := text.toList
  let marks := fault.extents.map (placesOf pattern)
  let short := marks.filter fun mark => mark.1.line = mark.2.line
  let lines := linesFrom [] pattern
  let cause := "error: " ++ fault.cause.message
  if pattern.contains '\n' then
    let count := lines.length + if pattern.getLast? = some '\n' then 1 else 0
    let width := if count ≤ 1 then 0 else (toString count).length
    let number line := if width = 0 then "    " else padLeft width line ++ ": "
    let margin := if width = 0 then 4 else width + 2
    let ruler := "".pushn '~' 79 ++ "\n"
    let long := marks.filter fun mark => mark.1.line ≠ mark.2.line
    let below :=
      if long.isEmpty then "" else String.intercalate "\n" (long.map describe) ++ "\n"
    "regex parse error:\n" ++ ruler ++ annotate number margin short 1 lines ++ ruler ++ below ++
      cause
  else
    "regex parse error:\n" ++ annotate (fun _ => "    ") 4 short 1 lines ++ cause

end Fault

end TrigramGrep.Pattern
