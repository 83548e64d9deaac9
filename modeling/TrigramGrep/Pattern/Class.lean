import TrigramGrep.Pattern.Escape

/-!
# Classes in brackets

A bracketed class is a list of characters, ranges and other classes, whose members it holds together;
a caret behind the bracket asks for the characters outside.  Between such lists an operation may
stand, and operations are carried out from left to right.  Classes nest.

A hyphen stands for itself at the beginning, and a closing bracket does where the class would be
empty otherwise.

## Shape of the reader

`readItems` keeps the open classes on a stack: a frame is a class that a nested one interrupts, or
an operation that waits for its right side.  So nesting is no recursion, and every step takes at
least one character.
-/

namespace TrigramGrep.Pattern

/-- The classes of ASCII characters that have a name between colons. -/
def asciiClass? : List Char → Option CharSet
  | ['a', 'l', 'n', 'u', 'm'] => some [⟨48, 57⟩, ⟨65, 90⟩, ⟨97, 122⟩]
  | ['a', 'l', 'p', 'h', 'a'] => some [⟨65, 90⟩, ⟨97, 122⟩]
  | ['a', 's', 'c', 'i', 'i'] => some [⟨0, 127⟩]
  | ['b', 'l', 'a', 'n', 'k'] => some [⟨9, 9⟩, ⟨32, 32⟩]
  | ['c', 'n', 't', 'r', 'l'] => some [⟨0, 31⟩, ⟨127, 127⟩]
  | ['d', 'i', 'g', 'i', 't'] => some [⟨48, 57⟩]
  | ['g', 'r', 'a', 'p', 'h'] => some [⟨33, 126⟩]
  | ['l', 'o', 'w', 'e', 'r'] => some [⟨97, 122⟩]
  | ['p', 'r', 'i', 'n', 't'] => some [⟨32, 126⟩]
  | ['p', 'u', 'n', 'c', 't'] => some [⟨33, 47⟩, ⟨58, 64⟩, ⟨91, 96⟩, ⟨123, 126⟩]
  | ['s', 'p', 'a', 'c', 'e'] => some [⟨9, 13⟩, ⟨32, 32⟩]
  | ['u', 'p', 'p', 'e', 'r'] => some [⟨65, 90⟩]
  | ['w', 'o', 'r', 'd'] => some [⟨48, 57⟩, ⟨65, 90⟩, ⟨95, 95⟩, ⟨97, 122⟩]
  | ['x', 'd', 'i', 'g', 'i', 't'] => some [⟨48, 57⟩, ⟨65, 70⟩, ⟨97, 102⟩]
  | _ => none

/-- Reads a class by name between `[:` and `:]`, if one stands here. -/
def readAsciiClass? (c : Cursor) : Option (Bracket × Cursor) := do
  let start := c.offset
  let c ← c.accept? "[:"
  let negated := c.peek? = some '^'
  let c := if negated then c.bump else c
  let name := c.rest.takeWhile (· ≠ ':')
  let c ← (c.advance name.length).accept? ":]"
  let set ← asciiClass? name
  return (.ascii (c.since start) set negated, c)

/-- A node as an item of a class, if it can be one. -/
def itemOf : Node → Except Fault Bracket
  | .letter letter => .ok (.letter letter)
  | .shorthand extent kind negated => .ok (.shorthand extent kind negated)
  | .property extent query negated => .ok (.property extent query negated)
  | node => fault .classEscape node.extent

/-- A node as an end of a range, if it can be one. -/
def rangeEndOf : Node → Except Fault Letter
  | .letter letter => .ok letter
  | node => fault .classRangeEnd node.extent

/-- Reads one sign of a class: an escape, or any other character as itself. -/
def readSign : Reader Node := fun c =>
  match c.peek? with
  | some '\\' => readEscape c
  | some d => .ok (.letter ⟨c.character, d, false⟩, c.bump)
  | none => fault .classUnclosed c.here

/-- Reads a sign or a range of a class, given the stretch at which the class opens. -/
def readItem (opening : Extent) : Reader Bracket := fun c => do
  let (first, c) ← readSign c
  let c := c.skipBlank
  match c.peek? with
  | none => fault .classUnclosed opening
  | some d =>
    let behind := c.peekBehind?
    if d ≠ '-' ∨ behind = some ']' ∨ behind = some '-' then return (← itemOf first, c)
    let c := c.bumpBlank
    if c.atEnd then fault .classUnclosed opening
    let (last, c) ← readSign c
    let extent : Extent := ⟨first.extent.start, last.extent.stop⟩
    let first ← rangeEndOf first
    let last ← rangeEndOf last
    if last.char < first.char then fault .classRangeOrder extent
    return (.range extent first last, c)

/-- Reads hyphens that stand for themselves in front of the items of a class; the items read so far
come first. -/
def readHyphens (start : Nat) (items : List Bracket) (c : Cursor) :
    Except Fault (List Bracket × Cursor) :=
  match _ : c.rest with
  | [] => fault .classUnclosed ⟨start, start⟩
  | d :: _ =>
    if d = '-' then readHyphens start (.letter ⟨c.character, d, false⟩ :: items) c.bumpBlank
    else .ok (items, c)
termination_by c.rest.length
decreasing_by exact Cursor.length_bumpBlank_lt ‹_›

/-- A class that has been opened and not yet closed. -/
structure OpenClass where
  /-- Where its brackets open, with what belongs to them. -/
  opening : Extent
  negated : Bool
  /-- The items read since the last operation, the last first. -/
  items : List Bracket
  /-- Where these items begin. -/
  place : Nat
  deriving Repr

/-- Reads the beginning of a class: the bracket, the caret, and signs that stand for themselves only
here. -/
def readOpening : Reader OpenClass := fun c => do
  let start := c.offset
  let c := c.bumpBlank
  let unclosed {α : Type} (c : Cursor) : Except Fault α := fault .classUnclosed (c.since start)
  if c.atEnd then unclosed c
  let negated := c.peek? = some '^'
  let c := if negated then c.bumpBlank else c
  if c.atEnd then unclosed c
  let place := c.offset
  let (items, c) ← readHyphens start [] c
  if items.isEmpty ∧ c.peek? = some ']' then
    let items := [.letter ⟨c.character, ']', false⟩]
    let c := c.bumpBlank
    if c.atEnd then unclosed c
    return (⟨c.since start, negated, items, place⟩, c)
  return (⟨c.since start, negated, items, place⟩, c)

/-- What waits while a part of a class is read. -/
inductive ClassFrame where
  /-- A class that the one being read is nested in. -/
  | outer (outer : OpenClass)
  /-- An operation and its left side. -/
  | operation (kind : SetOperation) (left : Bracket)
  deriving Repr

/-- The items read since the last operation, joined to the operation if one waits for them. -/
def OpenClass.close (current : OpenClass) (frames : List ClassFrame) :
    Bracket × List ClassFrame :=
  let right := Bracket.ofItems current.place current.items
  match frames with
  | .operation kind left :: frames =>
    (.operation ⟨left.extent.start, right.extent.stop⟩ kind left right, frames)
  | frames => (right, frames)

/-- The operation that stands here, if one does. -/
def operationAt? (c : Cursor) : Option SetOperation :=
  match c.rest with
  | '&' :: '&' :: _ => some .intersection
  | '-' :: '-' :: _ => some .difference
  | '~' :: '~' :: _ => some .symmetricDifference
  | _ => none

/-- Reads the items of a class and of those nested in it, up to the bracket that closes the outermost
one.  The fuel bounds the number of steps. -/
def readItems : (fuel : Nat) → List ClassFrame → OpenClass → Reader Node
  | 0, _, current, _ => fault .classUnclosed current.opening
  | fuel + 1, frames, current, c => do
    let c := c.skipBlank
    match c.peek? with
    | none => fault .classUnclosed current.opening
    | some '[' =>
      match readAsciiClass? c with
      | some (item, c) => readItems fuel frames { current with items := item :: current.items } c
      | none =>
        let (nested, c) ← readOpening c
        readItems fuel (.outer current :: frames) nested c
    | some ']' =>
      let (body, frames) := current.close frames
      let c := c.bump
      let extent := c.since current.opening.start
      match frames with
      | .outer outer :: frames =>
        let item := .nested extent current.negated body
        readItems fuel frames { outer with items := item :: outer.items } c
      | _ => return (.bracketed extent current.negated body, c)
    | some _ =>
      match operationAt? c with
      | some kind =>
        let (left, frames) := current.close frames
        let c := c.advance 2
        readItems fuel (.operation kind left :: frames)
          { current with items := [], place := c.offset } c
      | none =>
        let (item, c) ← readItem current.opening c
        readItems fuel frames { current with items := item :: current.items } c

/-- Reads a bracketed class, from its bracket on. -/
def readClass : Reader Node := fun c => do
  let (current, behind) ← readOpening c
  readItems (c.rest.length + 1) [] current behind

end TrigramGrep.Pattern
