import TrigramGrep.Query.Analysis
import TrigramGrep.Regex.Basic

/-!
# The query of a regular expression

`Query.ofRegex` derives from a syntax tree a condition that every text with a match meets.  Anchors
and other conditions on positions count as the empty text, groups as their bodies.

An expression is analysed bottom up (`Analysis.ofRegex`).  At the root the exact set, if there still
is one, is turned into trigrams.
-/

namespace TrigramGrep

namespace CharClass

/-- Whether a number is the code point of a character. -/
def isCharacter (n : Nat) : Bool := n < 0xD800 || (0xE000 ≤ n && n ≤ 0x10FFFF)

/-- The strings that the members of a class stand for. -/
def strings : CharClass → StringSet
  | .chars set => (set.members.filter isCharacter).map Text.Utf8.encode
  | .bytes set => set.members.map fun n => [UInt8.ofNat n]

end CharClass

namespace Analysis

/-- The analysis of a class. -/
def ofClass (limits : Limits) (c : CharClass) : Analysis :=
  if c.set.size = 0 then nothing
  else if limits.maxClass < c.set.size then anyCharacter
  else ofExact c.strings

/-- The analysis of a repetition of a part. -/
def ofRepetition (limits : Limits) (min : Nat) (max : Option Nat) (body : Analysis) : Analysis :=
  if min = 0 then
    if max = some 1 then alternate limits body emptyText else anything
  else body.repeatedly

/-- The analysis of parts in sequence. -/
def concatAll (limits : Limits) : List Analysis → Analysis
  | [] => emptyText
  | first :: rest => rest.foldl (concat limits) first

/-- The analysis of alternatives. -/
def alternateAll (limits : Limits) : List Analysis → Analysis
  | [] => nothing
  | first :: rest => rest.foldl (alternate limits) first

mutual

/-- The analysis of an expression. -/
def ofRegex (limits : Limits) : Regex → Analysis
  | .empty => simplify limits false emptyText
  | .look _ => simplify limits false emptyText
  | .literal bytes => simplify limits false (ofExact [bytes])
  | .charClass c => simplify limits false (ofClass limits c)
  | .capture _ _ body => simplify limits false (ofRegex limits body)
  | .repeated min max _ body =>
    simplify limits false (ofRepetition limits min max (ofRegex limits body))
  | .concat parts => simplify limits false (concatAll limits (ofParts limits parts))
  | .alternation parts =>
    simplify limits false <|
      if limits.maxAlternates < parts.length then anything
      else alternateAll limits (ofParts limits parts)

/-- The analyses of a list of expressions. -/
def ofParts (limits : Limits) : List Regex → List Analysis
  | [] => []
  | part :: parts => ofRegex limits part :: ofParts limits parts

end

end Analysis

/-- A condition that every text with a match of an expression meets. -/
def Query.ofRegex (limits : Limits) (r : Regex) : Query :=
  (Analysis.simplify limits true (Analysis.ofRegex limits r)).withExact.condition

end TrigramGrep
