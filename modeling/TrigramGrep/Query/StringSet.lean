import TrigramGrep.Query

/-!
# Finite sets of strings

While a query is derived, small sets of byte strings stand for what a part of a pattern can match,
begin with or end with.  A set is a list in ascending order without repeats.  Sets of beginnings are
ordered as strings are; sets of endings are ordered by their strings read backwards, so that in both
cases the strings that share the part next to the outside of the match stand together.
-/

namespace TrigramGrep

/-- Which end of a match a set of strings describes. -/
inductive Side where
  | front
  | back
  deriving DecidableEq, Repr

/-- A finite set of byte strings, as a rule in the order of one side. -/
abbrev StringSet := List Bytes

namespace Side

/-- A string as it is read from a side inwards. -/
def inwards : Side → Bytes → Bytes
  | .front, s => s
  | .back, s => s.reverse

/-- The order of strings read from a side inwards, as a Boolean test. -/
def le (side : Side) (s t : Bytes) : Bool :=
  Bytes.le (side.inwards s) (side.inwards t)

/-- The `length` bytes of a string next to a side; a shorter string stays whole. -/
def keep (side : Side) (length : Nat) (s : Bytes) : Bytes :=
  match side with
  | .front => s.take length
  | .back => s.drop (s.length - length)

/-- Whether a string stands within another at a side. -/
def isWithin (side : Side) (part whole : Bytes) : Bool :=
  (side.inwards part).isPrefixOf (side.inwards whole)

end Side

namespace StringSet

/-- A list of strings in the order of a side, each once. -/
def clean (side : Side) (set : StringSet) : StringSet :=
  (set.mergeSort side.le).eraseReps

/-- All strings made of one of the first and one of the second set. -/
def cross (side : Side) (xs ys : StringSet) : StringSet :=
  clean side (xs.flatMap fun x => ys.map (x ++ ·))

/-- The strings of two sets together. -/
def union (side : Side) (xs ys : StringSet) : StringSet :=
  clean side (xs ++ ys)

/-- The length of the shortest string; zero for the empty set. -/
def minLength (set : StringSet) : Nat :=
  (set.map List.length).min?.getD 0

/-- The strings of a set cut to `length` bytes at a side. -/
def shorten (side : Side) (length : Nat) (set : StringSet) : StringSet :=
  clean side (set.map (side.keep length))

/-- A set cut to strings of two bytes, and to fewer as long as it has more than `limit` members. -/
def reduce (side : Side) (limit : Nat) (set : StringSet) : StringSet :=
  let two := shorten side 2 set
  if two.length ≤ limit then two
  else
    let one := shorten side 1 two
    if one.length ≤ limit then one else shorten side 0 one

/-- A sorted set without the strings that have the string kept before them at a side. -/
def pruneAfter (side : Side) (kept : Option Bytes) : StringSet → StringSet
  | [] => []
  | s :: rest =>
    if kept.any fun k => side.isWithin k s then pruneAfter side kept rest
    else s :: pruneAfter side (some s) rest

/-- A sorted set without the strings that have another of its strings at a side. -/
def prune (side : Side) (set : StringSet) : StringSet :=
  pruneAfter side none set

/-- The condition that a text holds all trigrams of some string of a set.  A string of fewer than
three bytes has none, so a set with such a string gives no condition. -/
def condition (set : StringSet) : Query :=
  if minLength set < 3 then .always
  else set.foldl (fun q s => q.disj (Query.hasAll (Trigram.distinct s))) .never

end StringSet

end TrigramGrep
