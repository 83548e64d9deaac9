import TrigramGrep.Index.Reader
import TrigramGrep.Query

/-!
# The files that a query leaves

A query is evaluated on an index by its posting lists.  The answer holds every file that the query holds
for, ascending; a fault in a list that is needed for it is the answer's fault.

The parts of a conjunction that are plain trigrams come first, since they are cheap and narrow the list
the most, and as soon as nothing is left the other parts are not looked at.
-/

namespace TrigramGrep.Index.Reader

/-- What is left of some candidates by the parts of a conjunction that are trigrams; `none` stands for
candidates that nothing has narrowed yet.  An empty list is final. -/
def narrowByTrigrams (r : Reader) :
    List Query → Option Posting → Except ReadFault (Option Posting)
  | [], candidates => .ok candidates
  | .has t :: parts, candidates => do
    let next ← match candidates with
      | some list => r.postingAnd list t
      | none => r.posting t
    if next.isEmpty then return some [] else narrowByTrigrams r parts (some next)
  | _ :: parts, candidates => narrowByTrigrams r parts candidates

mutual

/-- The files that a query leaves. -/
def execute (r : Reader) : Query → Except ReadFault Posting
  | .always => .ok r.allFiles
  | .never => .ok []
  | .has t => r.posting t
  | .all parts => do
    match ← r.narrowByTrigrams parts none with
    | some [] => return []
    | candidates =>
      match ← narrowByOthers r parts candidates with
      | some list => return list
      | none => return r.allFiles
  | .any parts =>
    if parts.any fun part => part = .always then .ok r.allFiles else executeAny r parts []

/-- What is left of some candidates by the parts of a conjunction that are no trigrams. -/
def narrowByOthers (r : Reader) :
    List Query → Option Posting → Except ReadFault (Option Posting)
  | [], candidates => .ok candidates
  | .has _ :: parts, candidates => narrowByOthers r parts candidates
  | .always :: parts, candidates => narrowByOthers r parts candidates
  | part :: parts, candidates => do
    let list ← execute r part
    let next := match candidates with
      | some candidates => candidates.inter list
      | none => list
    if next.isEmpty then return some [] else narrowByOthers r parts (some next)

/-- The files of a list and those that some part of a disjunction leaves. -/
def executeAny (r : Reader) : List Query → Posting → Except ReadFault Posting
  | [], list => .ok list
  | part :: parts, list => do
    let ids ← execute r part
    executeAny r parts (list.union ids)

end

end TrigramGrep.Index.Reader
