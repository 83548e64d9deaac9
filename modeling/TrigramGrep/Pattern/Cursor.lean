import TrigramGrep.Pattern.Fault
import TrigramGrep.Unicode.Property

/-!
# A place in a pattern while it is read

A cursor holds what is left of a pattern and how far it has come.  In verbose mode blanks and comments
between the signs of a pattern do not count; the readers say with `skipBlank` and `bumpBlank` where
they may stand.

A reader takes a cursor and gives a result and the cursor behind it, or a fault.
-/

namespace TrigramGrep.Pattern

/-- How far a pattern has been read. -/
structure Cursor where
  /-- The number of characters behind the cursor. -/
  offset : Nat
  /-- The characters ahead of it. -/
  rest : List Char
  /-- Whether blanks and comments do not count. -/
  verbose : Bool
  deriving DecidableEq, Repr

/-- Whether a character is white space. -/
def isBlank (c : Char) : Bool := Unicode.whiteSpace.contains c.toNat

/-- The number of white space characters in front of a text. -/
def whiteLength (text : List Char) : Nat := (text.takeWhile isBlank).length

/-- The number of characters of white space and comments in front of a text.  A comment goes from a
number sign up to the end of the line. -/
def blankLength : (comment : Bool) → List Char → Nat
  | _, [] => 0
  | true, c :: rest => blankLength (c ≠ '\n') rest + 1
  | false, c :: rest =>
    if isBlank c then blankLength false rest + 1
    else if c = '#' then blankLength true rest + 1
    else 0

namespace Cursor

/-- The beginning of a pattern. -/
def ofText (text : String) : Cursor := ⟨0, text.toList, false⟩

/-- The next character. -/
def peek? (c : Cursor) : Option Char := c.rest.head?

/-- Whether nothing is left. -/
def atEnd (c : Cursor) : Bool := c.rest.isEmpty

/-- Moves on by a number of characters. -/
def advance (n : Nat) (c : Cursor) : Cursor :=
  { c with offset := c.offset + (c.rest.take n).length, rest := c.rest.drop n }

/-- Moves on by one character. -/
def bump (c : Cursor) : Cursor := c.advance 1

/-- Moves over blanks and comments, in verbose mode. -/
def skipBlank (c : Cursor) : Cursor :=
  if c.verbose then c.advance (blankLength false c.rest) else c

/-- Moves on by one character and over what does not count behind it. -/
def bumpBlank (c : Cursor) : Cursor := c.bump.skipBlank

/-- Moves over white space, whether it counts or not. -/
def skipWhite (c : Cursor) : Cursor := c.advance (whiteLength c.rest)

/-- Moves over a text if it comes next. -/
def accept? (text : String) (c : Cursor) : Option Cursor :=
  let chars := text.toList
  if chars.isPrefixOf c.rest then some (c.advance chars.length) else none

/-- The empty stretch at the cursor. -/
def here (c : Cursor) : Extent := ⟨c.offset, c.offset⟩

/-- The stretch of the next character. -/
def character (c : Cursor) : Extent := ⟨c.offset, c.offset + 1⟩

/-- The stretch from a place up to the cursor. -/
def since (start : Nat) (c : Cursor) : Extent := ⟨start, c.offset⟩

/-- The character behind the next one that counts.  The words of a comment are not skipped for this,
only its sign; where nothing but blanks follows, it is the character right behind the next one. -/
def peekBehind? (c : Cursor) : Option Char :=
  let behind := c.rest.drop 1
  if c.verbose then
    let visible := behind.dropWhile isBlank
    let visible := if visible.head? = some '#' then (visible.drop 1).dropWhile isBlank else visible
    visible.head?.or behind.head?
  else behind.head?

theorem length_advance (n : Nat) (c : Cursor) :
    (c.advance n).rest.length = c.rest.length - n := by
  simp [advance]

theorem length_skipBlank_le (c : Cursor) : c.skipBlank.rest.length ≤ c.rest.length := by
  unfold skipBlank
  split
  · rw [length_advance]; omega
  · exact Nat.le_refl _

/-- Moving on by a character leaves less of the pattern. -/
theorem length_bump_lt {c : Cursor} {d : Char} {rest : List Char} (h : c.rest = d :: rest) :
    c.bump.rest.length < c.rest.length := by
  rw [bump, length_advance, h]
  simp

/-- Moving on by a character and over blanks leaves less of the pattern. -/
theorem length_bumpBlank_lt {c : Cursor} {d : Char} {rest : List Char} (h : c.rest = d :: rest) :
    c.bumpBlank.rest.length < c.rest.length :=
  Nat.lt_of_le_of_lt (length_skipBlank_le c.bump) (length_bump_lt h)

end Cursor

/-- A reader of a part of a pattern. -/
abbrev Reader (α : Type) := Cursor → Except Fault (α × Cursor)

end TrigramGrep.Pattern
