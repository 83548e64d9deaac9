/-!
# Posting lists

The files that hold a trigram are listed by id, strictly ascending.  Two such lists are intersected
and united in one pass over both.
-/

namespace TrigramGrep

/-- The number of an indexed file; files are numbered from zero. -/
abbrev FileId := UInt32

/-- The ids of files, as a rule strictly ascending. -/
abbrev Posting := List FileId

namespace Posting

/-- The ids that stand in both lists. -/
def inter : Posting → Posting → Posting
  | [], _ => []
  | _ :: _, [] => []
  | x :: xs, y :: ys =>
    if x < y then inter xs (y :: ys)
    else if y < x then inter (x :: xs) ys
    else x :: inter xs ys
termination_by xs ys => xs.length + ys.length

/-- The ids that stand in one of the lists; an id of both is taken once. -/
def union : Posting → Posting → Posting
  | [], ys => ys
  | x :: xs, [] => x :: xs
  | x :: xs, y :: ys =>
    if x < y then x :: union xs (y :: ys)
    else if y < x then y :: union (x :: xs) ys
    else x :: union xs ys
termination_by xs ys => xs.length + ys.length

/-- Whether every id is below the one after it. -/
def isAscending : Posting → Bool
  | x :: y :: rest => decide (x < y) && isAscending (y :: rest)
  | _ => true

end Posting

end TrigramGrep
