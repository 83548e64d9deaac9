import TrigramGrep.Regex.Basic

/-!
# Leaving out what cannot match

A part that matches nothing spoils all that stands in a row with it, and it is no alternative.  What it spoils
may be large, so it is left out before an expression is laid out to be run.

## Shape of the result

`Regex.pruned` is the expression that matches nothing, or it has no such part at all.
-/

namespace TrigramGrep.Regex

mutual

/-- An expression without the parts that cannot take part in a match. -/
def pruned : Regex → Regex
  | .charClass set => if set.set.isEmpty then fail else .charClass set
  | .capture index name body =>
    let body := pruned body
    if body = fail then fail else .capture index name body
  | .repeated min max greedy body =>
    let body := pruned body
    if body ≠ fail then .repeated min max greedy body
    else if min = 0 then .empty
    else fail
  | .concat parts =>
    let parts := prunedParts parts
    if fail ∈ parts then fail else .concat parts
  | .alternation parts =>
    match (prunedParts parts).filter (· ≠ fail) with
    | [] => fail
    | parts => .alternation parts
  | r => r

/-- Several expressions, each without the parts that cannot take part in a match. -/
def prunedParts : List Regex → List Regex
  | [] => []
  | part :: parts => pruned part :: prunedParts parts

end

end TrigramGrep.Regex
