import TrigramGrep.Bytes
import TrigramGrep.CharSet
import TrigramGrep.Text.Utf8

/-!
# Regular expressions

The syntax tree of a pattern after all flags have been resolved: a tree speaks of bytes and of
characters in their UTF-8 form, and of positions, but no longer of case or of line mode.  A tree can
be built with any shape; `Regex.Build` has the constructors that simplify.

## Shape of a tree

* `Regex.look` holds at a position and takes no bytes.
* `Regex.charClass` takes one character in UTF-8, or one byte.  The class without members is the
  expression that matches nothing.
* `Regex.capture` is its body; the number and the name tell groups apart.
* `Regex.repeated` takes its body between `min` and `max` times, without bound when `max` is `none`,
  preferring more when it is greedy.
* In `Regex.alternation` earlier parts are preferred to later ones.
-/

namespace TrigramGrep

/-- Which lines an anchor goes by. -/
inductive LineMode where
  /-- The whole text is one line. -/
  | whole
  /-- Lines end in a newline. -/
  | newline
  /-- Lines end in a newline, a carriage return, or both in the order of a pair. -/
  | crlf
  deriving DecidableEq, Repr

/-- What is asked of the characters on both sides of a position. -/
inductive WordEdge where
  /-- One side belongs to a word and the other does not. -/
  | boundary
  /-- Both sides do, or neither. -/
  | noBoundary
  /-- The right side does and the left does not. -/
  | start
  /-- The left side does and the right does not. -/
  | stop
  /-- The left side does not. -/
  | startHalf
  /-- The right side does not. -/
  | stopHalf
  deriving DecidableEq, Repr

/-- A condition on a position in a text. -/
inductive Look where
  /-- A line begins here. -/
  | lineStart (mode : LineMode)
  /-- A line ends here. -/
  | lineStop (mode : LineMode)
  /-- A word has an edge here; words are those of Unicode or of ASCII. -/
  | word (edge : WordEdge) (unicode : Bool)
  deriving DecidableEq, Repr

/-- A class of characters, each taken in its UTF-8 form, or of single bytes. -/
inductive CharClass where
  | chars (set : CharSet)
  | bytes (set : CharSet)
  deriving DecidableEq, Repr

/-- The syntax tree of a pattern. -/
inductive Regex where
  | empty
  | look (condition : Look)
  | literal (bytes : Bytes)
  | charClass (set : CharClass)
  | capture (index : Nat) (name : Option String) (body : Regex)
  | repeated (min : Nat) (max : Option Nat) (greedy : Bool) (body : Regex)
  | concat (parts : List Regex)
  | alternation (parts : List Regex)
  deriving Repr, Inhabited

namespace CharClass

/-- The numbers of a class, whatever they stand for. -/
def set : CharClass → CharSet
  | .chars set => set
  | .bytes set => set

/-- The length of the longest member in bytes; a class without members has none. -/
def maxLength : CharClass → Option Nat
  | .chars set => set.getLast?.map fun r => (Text.Utf8.encode r.high).length
  | .bytes set => set.getLast?.map fun _ => 1

/-- The length of the shortest member in bytes; a class without members has none. -/
def minLength : CharClass → Option Nat
  | .chars set => set.head?.map fun r => (Text.Utf8.encode r.low).length
  | .bytes set => set.head?.map fun _ => 1

end CharClass

namespace Regex

/-- The expression that matches nothing. -/
def fail : Regex := .charClass (.bytes [])

/-! ## Equality -/

mutual

/-- Trees are equal when they are built alike. -/
def decEq : (a b : Regex) → Decidable (a = b)
  | .empty, .empty => isTrue rfl
  | .look c, .look d => decidable_of_iff (c = d) (by simp)
  | .literal s, .literal t => decidable_of_iff (s = t) (by simp)
  | .charClass c, .charClass d => decidable_of_iff (c = d) (by simp)
  | .capture i n a, .capture j m b =>
    match decEq a b with
    | isTrue h => decidable_of_iff (i = j ∧ n = m) (by simp [h])
    | isFalse h => isFalse fun e => h (capture.inj e).2.2
  | .repeated k l g a, .repeated k' l' g' b =>
    match decEq a b with
    | isTrue h => decidable_of_iff (k = k' ∧ l = l' ∧ g = g') (by simp [h])
    | isFalse h => isFalse fun e => h (repeated.inj e).2.2.2
  | .concat as, .concat bs =>
    match decEqParts as bs with
    | isTrue h => isTrue (by rw [h])
    | isFalse h => isFalse fun e => h (concat.inj e)
  | .alternation as, .alternation bs =>
    match decEqParts as bs with
    | isTrue h => isTrue (by rw [h])
    | isFalse h => isFalse fun e => h (alternation.inj e)
  | .empty, .look _ | .empty, .literal _ | .empty, .charClass _ | .empty, .capture .. |
    .empty, .repeated .. | .empty, .concat _ | .empty, .alternation _ |
    .look _, .empty | .look _, .literal _ | .look _, .charClass _ | .look _, .capture .. |
    .look _, .repeated .. | .look _, .concat _ | .look _, .alternation _ |
    .literal _, .empty | .literal _, .look _ | .literal _, .charClass _ |
    .literal _, .capture .. | .literal _, .repeated .. | .literal _, .concat _ |
    .literal _, .alternation _ |
    .charClass _, .empty | .charClass _, .look _ | .charClass _, .literal _ |
    .charClass _, .capture .. | .charClass _, .repeated .. | .charClass _, .concat _ |
    .charClass _, .alternation _ |
    .capture .., .empty | .capture .., .look _ | .capture .., .literal _ |
    .capture .., .charClass _ | .capture .., .repeated .. | .capture .., .concat _ |
    .capture .., .alternation _ |
    .repeated .., .empty | .repeated .., .look _ | .repeated .., .literal _ |
    .repeated .., .charClass _ | .repeated .., .capture .. | .repeated .., .concat _ |
    .repeated .., .alternation _ |
    .concat _, .empty | .concat _, .look _ | .concat _, .literal _ | .concat _, .charClass _ |
    .concat _, .capture .. | .concat _, .repeated .. | .concat _, .alternation _ |
    .alternation _, .empty | .alternation _, .look _ | .alternation _, .literal _ |
    .alternation _, .charClass _ | .alternation _, .capture .. | .alternation _, .repeated .. |
    .alternation _, .concat _ => isFalse nofun

/-- Equality of lists of parts. -/
def decEqParts : (as bs : List Regex) → Decidable (as = bs)
  | [], [] => isTrue rfl
  | [], _ :: _ => isFalse nofun
  | _ :: _, [] => isFalse nofun
  | a :: as, b :: bs =>
    match decEq a b with
    | isFalse h => isFalse fun e => h (List.cons.inj e).1
    | isTrue h =>
      match decEqParts as bs with
      | isTrue h' => isTrue (by rw [h, h'])
      | isFalse h' => isFalse fun e => h' (List.cons.inj e).2

end

instance : DecidableEq Regex := decEq

/-! ## Parts -/

mutual

/-- Whether a test holds of a tree and of all trees in it. -/
def all (p : Regex → Bool) : Regex → Bool
  | .capture index name body => p (.capture index name body) && all p body
  | .repeated min max greedy body => p (.repeated min max greedy body) && all p body
  | .concat parts => p (.concat parts) && allOf p parts
  | .alternation parts => p (.alternation parts) && allOf p parts
  | r => p r

/-- Whether a test holds of several trees and of all trees in them. -/
def allOf (p : Regex → Bool) : List Regex → Bool
  | [] => true
  | part :: parts => all p part && allOf p parts

end

/-! ## Measures -/

mutual

/-- The number of nodes of a tree. -/
def nodes : Regex → Nat
  | .capture _ _ body => nodes body + 1
  | .repeated _ _ _ body => nodes body + 1
  | .concat parts => nodesOf parts + 1
  | .alternation parts => nodesOf parts + 1
  | _ => 1

/-- The number of nodes of a list of trees. -/
def nodesOf : List Regex → Nat
  | [] => 0
  | part :: parts => nodes part + nodesOf parts

end

mutual

/-- The length of the longest text that a tree can take, if there is one. -/
def maxLength : Regex → Option Nat
  | .empty => some 0
  | .look _ => some 0
  | .literal bytes => some bytes.length
  | .charClass set => set.maxLength
  | .capture _ _ body => maxLength body
  | .repeated _ max _ body =>
    match max, maxLength body with
    | some n, some length => some (n * length)
    | _, _ => none
  | .concat parts => maxLengthAll parts
  | .alternation parts => maxLengthAny parts

/-- The sum of the longest lengths, if all parts have one. -/
def maxLengthAll : List Regex → Option Nat
  | [] => some 0
  | part :: parts =>
    match maxLength part, maxLengthAll parts with
    | some m, some n => some (m + n)
    | _, _ => none

/-- The largest of the longest lengths, if all parts have one. -/
def maxLengthAny : List Regex → Option Nat
  | [] => some 0
  | part :: parts =>
    match maxLength part, maxLengthAny parts with
    | some m, some n => some (max m n)
    | _, _ => none

end

mutual

/-- The length of the shortest text that a tree can take; there is none if a part matches nothing. -/
def minLength : Regex → Option Nat
  | .empty => some 0
  | .look _ => some 0
  | .literal bytes => some bytes.length
  | .charClass set => set.minLength
  | .capture _ _ body => minLength body
  | .repeated min _ _ body => (minLength body).map (min * ·)
  | .concat parts => minLengthAll parts
  | .alternation parts => minLengthAny parts

/-- The sum of the shortest lengths, if all parts have one. -/
def minLengthAll : List Regex → Option Nat
  | [] => some 0
  | part :: parts =>
    match minLength part, minLengthAll parts with
    | some m, some n => some (m + n)
    | _, _ => none

/-- The smallest of the shortest lengths, if all parts have one. -/
def minLengthAny : List Regex → Option Nat
  | [] => none
  | [part] => minLength part
  | part :: parts =>
    match minLength part, minLengthAny parts with
    | some m, some n => some (min m n)
    | _, _ => none

end

end Regex

end TrigramGrep
