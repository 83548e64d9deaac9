/-!
# What a search has tried

A search notes at which positions of a text it has tried which places of a program, so that it tries none
twice.  It comes to positions not far behind the one where it starts, and it never goes back; so there is a
row of flags for each position from some first one on, rows are added and made longer as they are needed, and
the rows of positions that lie behind are given up.
-/

namespace TrigramGrep

/-- A place of a program and a position of a text. -/
structure Thread where
  place : Nat
  position : Nat
  deriving DecidableEq, Repr

/-- The threads that have been tried. -/
structure Tried where
  /-- The first position that has a row. -/
  first : Nat
  /-- For each position from the first one on the flags of its places. -/
  rows : Array (Array Bool) := #[]
  deriving Repr

namespace Tried

/-- An array with a value added at its end a number of times. -/
def pushMany {α : Type} (a : α) : (count : Nat) → Array α → Array α
  | 0, as => as
  | count + 1, as => pushMany a count (as.push a)

/-- Flags with one of them set. -/
def setFlag (flags : Array Bool) (index : Nat) : Array Bool :=
  if index < flags.size then flags.setIfInBounds index true
  else (pushMany false (index - flags.size) flags).push true

/-- Whether a thread has been tried. -/
def contains (tried : Tried) (thread : Thread) : Bool :=
  (tried.rows.getD (thread.position - tried.first) #[]).getD thread.place false

/-- The threads that have been tried and one more, which is not in front of the first position. -/
def insert (tried : Tried) (thread : Thread) : Tried :=
  let index := thread.position - tried.first
  let rows := pushMany #[] (index + 1 - tried.rows.size) tried.rows
  { tried with rows := rows.modify index (setFlag · thread.place) }

/-- The threads that have been tried but those at a position, which lies behind. -/
def leave (tried : Tried) (position : Nat) : Tried :=
  { tried with rows := tried.rows.setIfInBounds (position - tried.first) #[] }

end Tried

end TrigramGrep
