/-!
# Sets of characters and of bytes as ranges

A class of a pattern is a set of numbers: code points of characters, or bytes.  It is kept as a list
of ranges in normal form, ascending, no two of them overlapping or next to one another, so equal sets
are equal lists.

What "next to one another" means depends on the alphabet: the surrogates are no characters, so the
character after U+D7FF is U+E000.  An `Alphabet` says where it ends and what comes after and before a
member; the operations take it as a parameter.
-/

namespace TrigramGrep

/-- The numbers from `low` to `high`, both included. -/
structure Range where
  low : Nat
  high : Nat
  deriving DecidableEq, Repr, Inhabited

namespace Range

/-- The range between two numbers, whichever is the smaller. -/
def between (a b : Nat) : Range := ⟨min a b, max a b⟩

/-- The range of one number. -/
def single (a : Nat) : Range := ⟨a, a⟩

/-- Whether a number lies in a range. -/
def contains (r : Range) (n : Nat) : Bool := r.low ≤ n && n ≤ r.high

/-- The common part of two ranges, if there is one. -/
def inter? (r s : Range) : Option Range :=
  let low := max r.low s.low
  let high := min r.high s.high
  if low ≤ high then some ⟨low, high⟩ else none

/-- The order of ranges as a Boolean test: by the lower, then by the higher end. -/
def le (r s : Range) : Bool :=
  decide (r.low < s.low) || (decide (r.low = s.low) && decide (r.high ≤ s.high))

end Range

/-- A set of numbers that counts up to a largest one and may skip some. -/
structure Alphabet where
  /-- The largest member. -/
  top : Nat
  /-- The member after a given one. -/
  next : Nat → Nat
  /-- The member before a given one. -/
  prev : Nat → Nat

namespace Alphabet

/-- The code points of characters: all up to U+10FFFF but the surrogates. -/
def characters : Alphabet where
  top := 0x10FFFF
  next n := if n = 0xD7FF then 0xE000 else n + 1
  prev n := if n = 0xE000 then 0xD7FF else n - 1

/-- The bytes. -/
def bytes : Alphabet where
  top := 255
  next n := n + 1
  prev n := n - 1

end Alphabet

/-- A set of numbers as ranges; the operations keep them in normal form. -/
abbrev CharSet := List Range

namespace CharSet

/-- Whether a number lies in a set. -/
def contains (set : CharSet) (n : Nat) : Bool := set.any fun r => r.contains n

/-- The number of numbers that the ranges of a set span. -/
def size (set : CharSet) : Nat := set.foldl (fun n r => n + (r.high - r.low + 1)) 0

/-- Whether all members of a set are ASCII. -/
def isAscii (set : CharSet) : Bool := set.all fun r => r.high ≤ 0x7F

/-- Joins a sorted list of ranges to normal form; `done` holds the finished ranges, the last first. -/
def joinSorted (α : Alphabet) (done : List Range) : List Range → CharSet
  | [] => done.reverse
  | r :: rest =>
    match done with
    | [] => joinSorted α [r] rest
    | last :: before =>
      if r.low ≤ α.next last.high then joinSorted α (⟨last.low, max last.high r.high⟩ :: before) rest
      else joinSorted α (r :: last :: before) rest

/-- The set of the numbers of a list of ranges. -/
def ofRanges (α : Alphabet) (ranges : List Range) : CharSet :=
  joinSorted α [] (ranges.mergeSort Range.le)

/-- The numbers of two sets together. -/
def union (α : Alphabet) (a b : CharSet) : CharSet := ofRanges α (a ++ b)

/-- The numbers that two sets have in common. -/
def inter (α : Alphabet) (a b : CharSet) : CharSet :=
  ofRanges α (a.flatMap fun r => b.filterMap r.inter?)

/-- The members of an alphabet that lie outside a set, from `start` on. -/
def gapsFrom (α : Alphabet) (start : Nat) : CharSet → CharSet
  | [] => if start ≤ α.top then [⟨start, α.top⟩] else []
  | r :: rest =>
    (if start < r.low then [⟨start, α.prev r.low⟩] else []) ++ gapsFrom α (α.next r.high) rest

/-- The members of an alphabet that lie outside a set. -/
def complement (α : Alphabet) (set : CharSet) : CharSet := gapsFrom α 0 set

/-- The numbers of one set that are not in another. -/
def diff (α : Alphabet) (a b : CharSet) : CharSet := inter α a (complement α b)

/-- The numbers that are in exactly one of two sets. -/
def symmDiff (α : Alphabet) (a b : CharSet) : CharSet := diff α (union α a b) (inter α a b)

/-- The numbers of a set, ascending. -/
def members (set : CharSet) : List Nat :=
  set.flatMap fun r => (List.range (r.high - r.low + 1)).map (r.low + ·)

/-! ## Sets as text -/

/-- The value of a lower-case hexadecimal digit. -/
def hexDigitValue (c : Char) : Nat :=
  if c.isDigit then c.toNat - 48 else c.toNat - 87

/-- Reads ranges off characters: `low` is the lower end of the range being read, if a hyphen has been
met, and `value` the number being read, if a digit of it has. -/
def readRanges (low value : Option Nat) : List Char → List Range
  | [] => value.toList.map fun high => ⟨low.getD high, high⟩
  | c :: rest =>
    if c.isWhitespace then
      value.toList.map (fun high => ⟨low.getD high, high⟩) ++ readRanges none none rest
    else if c = '-' then readRanges value none rest
    else readRanges low (some (value.getD 0 * 16 + hexDigitValue c)) rest

/-- The ranges that a text lists, in hexadecimal and with white space between them. -/
def ofText (text : String) : CharSet := readRanges none none text.toList

end CharSet

end TrigramGrep
