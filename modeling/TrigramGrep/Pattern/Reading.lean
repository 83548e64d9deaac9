import TrigramGrep.Pattern.Class
import TrigramGrep.Unicode.Newer

/-!
# Reading a whole pattern

`Node.ofText` reads a pattern into the tree of what it says, or finds the first fault.  Groups that
are still open wait on a stack, together with the alternatives already read, so that nesting is no
recursion; every step of the reader takes at least one character.  When all is read, the depth of the
tree is checked.
-/

namespace TrigramGrep.Pattern

/-! ## Flags and names -/

/-- The flag that a letter stands for. -/
def Flag.ofLetter? : Char → Option Flag
  | 'i' => some .ignoreCase
  | 'm' => some .multiLine
  | 's' => some .dotAll
  | 'U' => some .swapGreed
  | 'u' => some .unicode
  | 'R' => some .crlf
  | 'x' => some .verbose
  | _ => none

/-- The sign that a character is in a list of flags. -/
def FlagSign.ofChar? (c : Char) : Option FlagSign :=
  if c = '-' then some .negation else (Flag.ofLetter? c).map .flag

/-- Reads flags up to a colon or a closing parenthesis, where it stops; `signs` are those read so far
with their places, the last first. -/
def readFlags (signs : List (FlagSign × Extent)) (c : Cursor) :
    Except Fault (List FlagSign × Cursor) :=
  match _ : c.rest with
  | [] => fault .flagUnfinished c.here
  | d :: _ =>
    if d = ':' ∨ d = ')' then
      match signs with
      | (.negation, extent) :: _ => fault .flagNegationDangling extent
      | _ => .ok ((signs.map Prod.fst).reverse, c)
    else
      match FlagSign.ofChar? d with
      | none => fault .flagUnknown c.character
      | some sign =>
        match signs.find? fun earlier => earlier.1 = sign with
        | some (_, extent) =>
          let cause := if sign = .negation then .flagNegationRepeated else .flagDuplicate
          .error ⟨cause, c.character, some extent⟩
        | none => readFlags ((sign, c.character) :: signs) c.bump
termination_by c.rest.length
decreasing_by exact Cursor.length_bump_lt ‹_›

/-- Whether a character can stand in the name of a group. -/
def isNameSign (first : Bool) (c : Char) : Bool :=
  if first then c = '_' || Unicode.isLetter c
  else ['_', '.', '[', ']'].contains c || Unicode.isLetter c || Unicode.isNumber c

/-- Reads the signs of a name up to the closing angle bracket, where it stops. -/
def readNameFrom (first : Bool) (chars : List Char) (c : Cursor) :
    Except Fault (List Char × Cursor) :=
  match _ : c.rest with
  | [] => fault .groupNameUnclosed c.here
  | d :: _ =>
    if d = '>' then .ok (chars.reverse, c)
    else if isNameSign first d then readNameFrom false (d :: chars) c.bump
    else fault .groupNameInvalid c.character
termination_by c.rest.length
decreasing_by exact Cursor.length_bump_lt ‹_›

/-! ## State -/

/-- A name of a group and where it stands. -/
structure GroupName where
  name : String
  extent : Extent
  deriving DecidableEq, Repr

/-- Nodes in sequence as they are read. -/
structure Sequence where
  /-- Where the sequence begins. -/
  place : Nat
  /-- Its parts, the last first. -/
  parts : List Node
  deriving Repr

/-- Alternatives that are complete, the last first, and where the first begins. -/
structure Branches where
  place : Nat
  nodes : List Node
  deriving Repr

/-- A group that is still open. -/
structure OpenGroup where
  /-- Where its parenthesis stands. -/
  place : Nat
  kind : GroupKind
  /-- What stands in front of the group. -/
  before : Sequence
  /-- The alternatives in front of that. -/
  branches : Option Branches
  /-- Whether blanks did not count in front of the group. -/
  verbose : Bool
  deriving Repr

/-- How far a pattern has been read, and what has been found. -/
structure Progress where
  cursor : Cursor
  /-- The groups around the cursor, the innermost first. -/
  groups : List OpenGroup
  /-- The complete alternatives of the innermost group. -/
  branches : Option Branches
  /-- What stands in front of the cursor in the alternative at hand. -/
  sequence : Sequence
  /-- The number of groups so far that have a number. -/
  numbered : Nat
  /-- The names of groups so far. -/
  names : List GroupName
  deriving Repr

namespace Progress

/-- The beginning of a pattern. -/
def ofText (text : String) : Progress :=
  { cursor := .ofText text
    groups := []
    branches := none
    sequence := ⟨0, []⟩
    numbered := 0
    names := [] }

/-- Adds a node to the sequence at hand and goes on behind it. -/
def push (p : Progress) (node : Node) (cursor : Cursor) : Progress :=
  { p with cursor := cursor, sequence := { p.sequence with parts := node :: p.sequence.parts } }

/-- The sequence at hand as a node that ends at the cursor. -/
def branch (p : Progress) : Node :=
  .ofParts ⟨p.sequence.place, p.cursor.offset⟩ p.sequence.parts

/-- All alternatives of the innermost group as a node that ends at the cursor. -/
def body (p : Progress) : Node :=
  match p.branches with
  | none => p.branch
  | some branches =>
    .alternation ⟨branches.place, p.cursor.offset⟩ (p.branch :: branches.nodes).reverse

/-! ## Alternatives and groups -/

/-- Goes on to the next alternative, from the bar on. -/
def nextBranch (p : Progress) : Progress :=
  let branches :=
    match p.branches with
    | none => ⟨p.sequence.place, [p.branch]⟩
    | some branches => { branches with nodes := p.branch :: branches.nodes }
  let cursor := p.cursor.bump
  { p with cursor := cursor, branches := some branches, sequence := ⟨cursor.offset, []⟩ }

/-- Opens a group whose parenthesis stands at `place`; its body begins at the cursor. -/
def enter (p : Progress) (place : Nat) (kind : GroupKind) (cursor : Cursor) : Progress :=
  let verbose :=
    match kind with
    | .plain signs => (FlagSign.setting? .verbose true signs).getD cursor.verbose
    | _ => cursor.verbose
  let group : OpenGroup :=
    { place := place
      kind := kind
      before := p.sequence
      branches := p.branches
      verbose := p.cursor.verbose }
  { p with
    cursor := { cursor with verbose := verbose }
    groups := group :: p.groups
    branches := none
    sequence := ⟨cursor.offset, []⟩ }

/-- The texts that begin a condition on what follows or comes before. -/
def lookAroundSigns : List String := ["?=", "?!", "?<=", "?<!"]

/-- Opens a group, or sets flags, from the parenthesis on. -/
def openGroup (p : Progress) : Except Fault Progress := do
  let place := p.cursor.offset
  let opening := p.cursor.character
  let c := p.cursor.bumpBlank
  if let some behind := lookAroundSigns.findSome? c.accept? then
    fault .lookAround (behind.since place)
  if let some c := (c.accept? "?P<").or (c.accept? "?<") then
    let start := c.offset
    let (name, c) ← readNameFrom true [] c
    let extent := c.since start
    let name := String.ofList name
    if name.isEmpty then fault .groupNameEmpty ⟨start, start⟩
    if let some earlier := p.names.find? fun earlier => earlier.name = name then
      .error ⟨.groupNameDuplicate, extent, some earlier.extent⟩
    let index := p.numbered + 1
    let p := { p with numbered := index, names := ⟨name, extent⟩ :: p.names }
    return p.enter place (.named index name) c.bump
  match c.accept? "?" with
  | none =>
    let index := p.numbered + 1
    return { p with numbered := index }.enter place (.numbered index) c
  | some behind =>
    if behind.atEnd then fault .groupUnclosed opening
    let (signs, behind) ← readFlags [] behind
    let ends := behind.peek? = some ')'
    let behind := behind.bump
    if ends then
      if signs.isEmpty then fault .repetitionOfNothing c.here
      let verbose := (FlagSign.setting? .verbose true signs).getD behind.verbose
      return p.push (.flags (behind.since place) signs) { behind with verbose := verbose }
    return p.enter place (.plain signs) behind

/-- Closes the innermost group, at the closing parenthesis. -/
def closeGroup (p : Progress) : Except Fault Progress :=
  match p.groups with
  | [] => fault .groupUnopened p.cursor.character
  | group :: groups =>
    let cursor := { p.cursor.bump with verbose := group.verbose }
    let node := .group (cursor.since group.place) group.kind p.body
    .ok (push { p with groups := groups, branches := group.branches, sequence := group.before }
      node cursor)

/-! ## Repetitions -/

/-- Reads a question mark that makes a repetition take as little as it can; without one it is
greedy. -/
def readGreed (c : Cursor) : Bool × Cursor :=
  if c.peek? = some '?' then (false, c.bump) else (true, c)

/-- The node that a repetition operator at the cursor applies to, and the parts in front of it. -/
def repeatedPart (p : Progress) : Except Fault (Node × List Node) :=
  match p.sequence.parts with
  | part :: parts =>
    if part.isRepeatable then .ok (part, parts) else fault .repetitionOfNothing p.cursor.here
  | [] => fault .repetitionOfNothing p.cursor.here

/-- Repeats the last part of the sequence; the cursor given stands behind the operator. -/
def repeatPart (p : Progress) (min : Nat) (max : Option Nat) (greedy : Bool) (part : Node)
    (parts : List Node) (cursor : Cursor) : Progress :=
  let node := .repetition (cursor.since part.extent.start) min max greedy part
  { p with cursor := cursor, sequence := { p.sequence with parts := node :: parts } }

/-- Repeats the last part by an operator of one sign. -/
def repeatBySign (p : Progress) (min : Nat) (max : Option Nat) : Except Fault Progress := do
  let (part, parts) ← p.repeatedPart
  let (greedy, cursor) := readGreed p.cursor.bump
  return p.repeatPart min max greedy part parts cursor

/-- Reads decimal digits, each followed by what does not count; `value` is the number so far, if there
are digits. -/
def readDigits (value : Option Nat) (c : Cursor) : Option Nat × Cursor :=
  match _ : c.rest with
  | [] => (value, c)
  | d :: _ =>
    if d.isDigit then readDigits (some (value.getD 0 * 10 + (d.toNat - 48))) c.bumpBlank
    else (value, c)
termination_by c.rest.length
decreasing_by exact Cursor.length_bumpBlank_lt ‹_›

/-- The largest count of a repetition. -/
def maxCount : Nat := UInt32.size - 1

/-- Reads a count with white space around it.  Whether a count is there and whether it is too large is
found out only when it is asked for, so the result is a count or a fault. -/
def readCount (c : Cursor) : Except Fault Nat × Cursor :=
  let c := c.skipWhite
  let start := c.offset
  let (value?, c) := readDigits none c
  let extent := c.since start
  let count :=
    match value? with
    | none => fault .countMissing extent
    | some value => if value ≤ maxCount then .ok value else fault .decimalInvalid extent
  (count, c.skipWhite)

/-- Reads what stands between the braces of a counted repetition, from the opening brace at `start`
on: the least and the largest count.  The cursor stops at the closing brace. -/
def readCounts (start : Nat) : Reader (Nat × Option Nat) := fun c => do
  let unclosed {α : Type} (c : Cursor) : Except Fault α := fault .countUnclosed (c.since start)
  let c := c.bumpBlank
  if c.atEnd then unclosed c
  let (least, c) := readCount c
  if c.atEnd then unclosed c
  if c.peek? ≠ some ',' then
    let least ← least
    if c.peek? ≠ some '}' then unclosed c
    return ((least, some least), c)
  let c := c.bumpBlank
  if c.atEnd then unclosed c
  if c.peek? = some '}' then return ((← least, none), c)
  let least ← least
  let (most, c) := readCount c
  let most ← most
  if c.peek? ≠ some '}' then unclosed c
  return ((least, some most), c)

/-- Repeats the last part by an operator with counts, from the opening brace on. -/
def repeatByCount (p : Progress) : Except Fault Progress := do
  let start := p.cursor.offset
  let (part, parts) ← p.repeatedPart
  let ((min, max), c) ← readCounts start p.cursor
  let (greedy, c) := readGreed c.bumpBlank
  if max.any (· < min) then fault .countOrder (c.since start)
  return p.repeatPart min max greedy part parts c

/-! ## The reader -/

/-- Reads a sign that is no operator. -/
def readSingle (d : Char) : Reader Node := fun c =>
  let behind := c.bump
  match d with
  | '\\' => readEscape c
  | '[' => readClass c
  | '.' => .ok (.dot c.character, behind)
  | '^' => .ok (.assertion c.character .lineStart, behind)
  | '$' => .ok (.assertion c.character .lineStop, behind)
  | d => .ok (.letter ⟨c.character, d, false⟩, behind)

/-- Reads what begins with a given character at the cursor. -/
def step (p : Progress) (d : Char) : Except Fault Progress :=
  match d with
  | '(' => p.openGroup
  | ')' => p.closeGroup
  | '|' => .ok p.nextBranch
  | '?' => p.repeatBySign 0 (some 1)
  | '*' => p.repeatBySign 0 none
  | '+' => p.repeatBySign 1 none
  | '{' => p.repeatByCount
  | d => do
    let (node, c) ← readSingle d p.cursor
    return p.push node c

/-- The tree of a pattern that has been read to its end. -/
def finish (p : Progress) : Except Fault Node :=
  match p.groups with
  | group :: _ => fault .groupUnclosed ⟨group.place, group.place + 1⟩
  | [] => .ok p.body

/-- Reads the rest of a pattern in at most `fuel` steps. -/
def run : (fuel : Nat) → Progress → Except Fault Node
  | 0, p => p.finish
  | fuel + 1, p => do
    let p := { p with cursor := p.cursor.skipBlank }
    match p.cursor.peek? with
    | none => p.finish
    | some d => run fuel (← p.step d)

end Progress

/-- The tree of a pattern.  A step takes at least one character, so there are no more steps than
characters, and one to see the end. -/
def Node.ofText (text : String) : Except Fault Node := do
  let node ← Progress.run (text.length + 1) (.ofText text)
  match node.tooDeep? nestLimit with
  | some extent => fault .nestedTooDeep extent
  | none => return node

end TrigramGrep.Pattern
