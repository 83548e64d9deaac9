import Std.Data.HashMap

/-!
# A memo of limited size

A memo remembers a number for each of several keys, which are lists of numbers themselves.  It has a fixed
number of places.  The place of a key is found from its digest, and a key that is put to a place which
another one holds drives it out.  So what has been remembered may be forgotten, but what is found is right.
-/

namespace TrigramGrep.Room

/-- The 64-bit FNV-1a digest of some numbers. -/
def digest (numbers : List Nat) : UInt64 :=
  numbers.foldl (fun h n => (h ^^^ UInt64.ofNat n) * 1099511628211) 14695981039346656037

/-- A memo with a fixed number of places. -/
structure Memo where
  /-- The number of places. -/
  size : Nat
  /-- The keys that hold a place, and the number of each. -/
  held : Std.HashMap Nat (List Nat × Nat) := ∅

namespace Memo

/-- The place of a key. -/
def place (memo : Memo) (key : List Nat) : Nat := (digest key).toNat % memo.size

/-- The number of a key, if it holds its place. -/
def find? (memo : Memo) (key : List Nat) : Option Nat :=
  match memo.held[memo.place key]? with
  | some (holder, number) => if holder = key then some number else none
  | none => none

/-- Gives a key its place and a number. -/
def insert (memo : Memo) (key : List Nat) (number : Nat) : Memo :=
  { memo with held := memo.held.insert (memo.place key) (key, number) }

end Memo

end TrigramGrep.Room
