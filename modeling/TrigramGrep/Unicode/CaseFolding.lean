import TrigramGrep.CharSet
import TrigramGrep.Unicode.CaseOrbits

/-!
# Ignoring case

A class that ignores case holds, with every character, all others of its orbit under simple case
folding.  In classes of bytes only the ASCII letters have another case.
-/

namespace TrigramGrep.Unicode

/-- Reads orbits off characters: `orbit` holds what was read of the orbit at hand, the last first, and
`value` is the number being read, if a digit of it has been met. -/
def readOrbits (orbit : List Nat) (value : Option Nat) : List Char → List (List Nat)
  | [] => value.toList.map fun last => (last :: orbit).reverse
  | c :: rest =>
    if c.isWhitespace then
      value.toList.map (fun last => (last :: orbit).reverse) ++ readOrbits [] none rest
    else if c = '=' then readOrbits (value.toList ++ orbit) none rest
    else readOrbits orbit (some (value.getD 0 * 16 + CharSet.hexDigitValue c)) rest

/-- The orbits of simple case folding that hold more than one character. -/
def orbits : List (List Nat) := readOrbits [] none caseOrbits.toList

/-- Whether another character differs from this one in case alone. -/
def hasCase (codePoint : Nat) : Bool := orbits.any fun orbit => orbit.contains codePoint

/-- A class of characters together with the other cases of its members. -/
def foldCase (set : CharSet) : CharSet :=
  let touched := orbits.filter fun orbit => orbit.any set.contains
  CharSet.ofRanges .characters (set ++ touched.flatMap fun orbit => orbit.map Range.single)

/-- The part of a range of bytes that lies within a range of letters, moved to the other case. -/
def otherCase (r letters : Range) (move : Nat → Nat) : List Range :=
  (r.inter? letters).toList.map fun found => ⟨move found.low, move found.high⟩

/-- A class of bytes together with the other cases of the ASCII letters in it. -/
def foldCaseBytes (set : CharSet) : CharSet :=
  CharSet.ofRanges .bytes (set ++ set.flatMap fun r =>
    otherCase r ⟨97, 122⟩ (· - 32) ++ otherCase r ⟨65, 90⟩ (· + 32))

end TrigramGrep.Unicode
