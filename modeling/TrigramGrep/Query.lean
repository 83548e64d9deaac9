import TrigramGrep.Trigram

/-!
# Conditions on the trigrams of a text

A query is a Boolean combination, without negation, of statements "the text holds this trigram".  It
is evaluated on the set of trigrams of a text (`Query.holds`), and built with `Query.conj` and
`Query.disj`, which apply the laws of the two constants, flatten nested nodes of their own kind one
level deep, and keep each part once.

The constructors themselves put no condition on their parts: a node may have no part, or one, or
contain a constant.  Whatever is said here about the operations holds for such queries, too.
-/

namespace TrigramGrep

/-- A condition on the set of trigrams of a text. -/
inductive Query where
  /-- No condition. -/
  | always
  /-- A condition that no text meets. -/
  | never
  /-- The text holds this trigram. -/
  | has (t : Trigram)
  /-- All parts hold. -/
  | all (parts : List Query)
  /-- Some part holds. -/
  | any (parts : List Query)
  deriving Repr, Inhabited

namespace Query

/-! ## Equality -/

mutual

/-- Queries are equal when they are built alike. -/
def decEq : (a b : Query) → Decidable (a = b)
  | .always, .always => isTrue rfl
  | .never, .never => isTrue rfl
  | .has s, .has t => decidable_of_iff (s = t) (by simp)
  | .all as, .all bs =>
    match decEqParts as bs with
    | isTrue h => isTrue (by rw [h])
    | isFalse h => isFalse fun e => h (all.inj e)
  | .any as, .any bs =>
    match decEqParts as bs with
    | isTrue h => isTrue (by rw [h])
    | isFalse h => isFalse fun e => h (any.inj e)
  | .always, .never | .always, .has _ | .always, .all _ | .always, .any _
  | .never, .always | .never, .has _ | .never, .all _ | .never, .any _
  | .has _, .always | .has _, .never | .has _, .all _ | .has _, .any _
  | .all _, .always | .all _, .never | .all _, .has _ | .all _, .any _
  | .any _, .always | .any _, .never | .any _, .has _ | .any _, .all _ =>
    isFalse nofun

/-- Equality of lists of parts. -/
def decEqParts : (as bs : List Query) → Decidable (as = bs)
  | [], [] => isTrue rfl
  | [], _ :: _ => isFalse nofun
  | _ :: _, [] => isFalse nofun
  | a :: as, b :: bs =>
    match decEq a b with
    | isFalse h => isFalse fun e => h (List.cons.inj e).1
    | isTrue h =>
      match decEqParts as bs with
      | isTrue h' => isTrue (by rw [h, h'])
      | isFalse h' => isFalse fun e => h' (List.cons.inj e).2

end

instance : DecidableEq Query := decEq

/-! ## Truth -/

mutual

/-- Whether a query holds of a text whose trigrams are those that `member` accepts. -/
def holds (member : Trigram → Bool) : Query → Bool
  | .always => true
  | .never => false
  | .has t => member t
  | .all parts => holdsAll member parts
  | .any parts => holdsAny member parts

/-- Whether every query of a list holds. -/
def holdsAll (member : Trigram → Bool) : List Query → Bool
  | [] => true
  | part :: parts => holds member part && holdsAll member parts

/-- Whether some query of a list holds. -/
def holdsAny (member : Trigram → Bool) : List Query → Bool
  | [] => false
  | part :: parts => holds member part || holdsAny member parts

end

/-- Whether a query is the empty condition. -/
def isAlways : Query → Bool
  | .always => true
  | _ => false

/-- Whether a query is the condition that nothing meets. -/
def isNever : Query → Bool
  | .never => true
  | _ => false

/-! ## Building -/

/-- The parts of a query seen as a conjunction. -/
def conjuncts : Query → List Query
  | .all parts => parts
  | q => [q]

/-- The parts of a query seen as a disjunction. -/
def disjuncts : Query → List Query
  | .any parts => parts
  | q => [q]

/-- A list of parts with one more at the end, unless it is there already. -/
def addPart (parts : List Query) (part : Query) : List Query :=
  if part ∈ parts then parts else parts ++ [part]

/-- The parts of two lists in order, each once. -/
def mergeParts (as bs : List Query) : List Query :=
  (as ++ bs).foldl addPart []

/-- The query that is its only part, or else the given node over all parts. -/
def node (make : List Query → Query) : List Query → Query
  | [part] => part
  | parts => make parts

/-- Both queries. -/
def conj : Query → Query → Query
  | .never, _ => .never
  | _, .never => .never
  | .always, b => b
  | a, .always => a
  | a, b => node .all (mergeParts a.conjuncts b.conjuncts)

/-- One of the queries or both. -/
def disj : Query → Query → Query
  | .always, _ => .always
  | _, .always => .always
  | .never, b => b
  | a, .never => a
  | a, b => node .any (mergeParts a.disjuncts b.disjuncts)

/-- The condition that a text holds every trigram of a list. -/
def hasAll (ts : List Trigram) : Query :=
  ts.foldl (fun q t => q.conj (.has t)) .always

/-! ## Views -/

/-- The trigram that a query asks for, when it asks for one alone. -/
def trigram? : Query → Option Trigram
  | .has t => some t
  | _ => none

/-- The part of a query that can be read off its top: the trigrams it needs in any case.  What is
dropped only weakens the condition. -/
def required : Query → Query
  | .all parts => hasAll (parts.filterMap trigram?)
  | .any _ => .always
  | q => q

mutual

/-- The trigrams of a query in the order in which they stand. -/
def mentioned : Query → List Trigram
  | .always => []
  | .never => []
  | .has t => [t]
  | .all parts => mentionedIn parts
  | .any parts => mentionedIn parts

/-- The trigrams of a list of queries in the order in which they stand. -/
def mentionedIn : List Query → List Trigram
  | [] => []
  | part :: parts => mentioned part ++ mentionedIn parts

end

/-- The distinct trigrams of a query, ascending. -/
def trigrams (q : Query) : List Trigram :=
  (q.mentioned.mergeSort fun s t => decide (s ≤ t)).eraseReps

end Query

end TrigramGrep
