import TrigramGrep.Query.StringSet

/-!
# What is known about the texts that an expression matches

An `Analysis` is either exact, when the expression matches just the strings of a small set, or it
tells what matches begin and end with; in both cases a query says what every match must contain, and
a flag whether the empty text can match.

## Shape of the bookkeeping

* Exact sets and sets of beginnings and endings stay small: `Analysis.simplify` turns an exact set
  that has grown too large, or whose strings have grown long, into its trigrams and its two-byte
  beginnings and endings, and cuts other sets until they fit.  Nothing is lost for good but the
  condition that the longer strings would have given later.
* `Analysis.concat` joins what the left part ends with and what the right part begins with, so that
  trigrams across the seam are found.
* A limit that is passed makes what is known of a part weaker, and never wrong.
-/

namespace TrigramGrep

/-- How much is kept while a query is derived. -/
structure Limits where
  /-- The largest set of strings that counts as exact. -/
  maxExact : Nat := 7
  /-- The largest set of beginnings or of endings. -/
  maxSet : Nat := 20
  /-- The largest class that is spelled out. -/
  maxClass : Nat := 100
  /-- The largest number of alternatives that are looked into. -/
  maxAlternates : Nat := 32
  deriving DecidableEq, Repr

/-- What is known about the texts that an expression matches. -/
structure Analysis where
  /-- Whether the empty text may be matched. -/
  canBeEmpty : Bool
  /-- The set of all matched texts, if it is known. -/
  exact : Option StringSet
  /-- Every match begins with one of these, when the set of all is not known. -/
  heads : StringSet
  /-- Every match ends with one of these, when the set of all is not known. -/
  tails : StringSet
  /-- A condition that every match meets. -/
  condition : Query
  deriving DecidableEq, Repr

namespace Analysis

/-- Nothing is matched. -/
def nothing : Analysis := ⟨false, none, [], [], .never⟩

/-- Something not empty is matched. -/
def anyCharacter : Analysis := ⟨false, none, [[]], [[]], .always⟩

/-- Anything may be matched. -/
def anything : Analysis := ⟨true, none, [[]], [[]], .always⟩

/-- Just the strings of a set are matched. -/
def ofExact (set : StringSet) : Analysis := ⟨set.any List.isEmpty, some set, [], [], .always⟩

/-- Just the empty text is matched. -/
def emptyText : Analysis := ofExact [[]]

/-- The analysis with the trigrams of its exact set taken into the condition. -/
def withExact (a : Analysis) : Analysis :=
  match a.exact with
  | none => a
  | some set => { a with condition := a.condition.conj set.condition }

/-- The analysis with its set of beginnings made to fit. -/
def simplifyHeads (limits : Limits) (a : Analysis) : Analysis :=
  let set := a.heads.clean .front
  { a with
    condition := a.condition.conj set.condition
    heads := (set.reduce .front limits.maxSet).prune .front }

/-- The analysis with its set of endings made to fit. -/
def simplifyTails (limits : Limits) (a : Analysis) : Analysis :=
  let set := a.tails.clean .back
  { a with
    condition := a.condition.conj set.condition
    tails := (set.reduce .back limits.maxSet).prune .back }

/-- Whether an exact set is given up: it has too many strings, all of them are long, or all of them
give trigrams and this is the `last` chance to take them. -/
def givesUp (limits : Limits) (last : Bool) (set : StringSet) : Bool :=
  decide (limits.maxExact < set.length) || (last && decide (3 ≤ set.minLength)) ||
    decide (4 ≤ set.minLength)

/-- The analysis with its exact set turned into beginnings, endings and trigrams. -/
def giveUp (a : Analysis) (set : StringSet) : Analysis :=
  let a := withExact { a with exact := some set }
  { a with
    exact := none
    heads := a.heads ++ set.map fun s => if s.length < 3 then s else s.take 2
    tails := a.tails ++ set.map fun s => if s.length < 3 then s else s.drop (s.length - 2) }

/-- The analysis with all its sets made to fit. -/
def simplify (limits : Limits) (last : Bool) (a : Analysis) : Analysis :=
  match a.exact.map (StringSet.clean .front) with
  | some set =>
    if givesUp limits last set then simplifyTails limits (simplifyHeads limits (giveUp a set))
    else { a with exact := some set }
  | none => simplifyTails limits (simplifyHeads limits a)

/-- The strings that a match begins with. -/
def beginnings (a : Analysis) : StringSet := a.exact.getD a.heads

/-- The strings that a match ends with. -/
def endings (a : Analysis) : StringSet := a.exact.getD a.tails

/-- The condition that follows from the seam of two parts, when the strings on both sides are known
and long enough to give trigrams. -/
def seam (limits : Limits) (x y : Analysis) : Query :=
  if x.exact.isNone && y.exact.isNone && decide (x.tails.length ≤ limits.maxSet) &&
      decide (y.heads.length ≤ limits.maxSet) &&
      decide (3 ≤ x.tails.minLength + y.heads.minLength) then
    (StringSet.cross .front x.tails y.heads).condition
  else .always

/-- What a part of a concatenation begins with. -/
def concatHeads (x y : Analysis) : StringSet :=
  match x.exact with
  | some set => StringSet.cross .front set y.heads
  | none => if x.canBeEmpty then StringSet.union .front x.heads y.beginnings else x.heads

/-- What a part of a concatenation ends with. -/
def concatTails (x y : Analysis) : StringSet :=
  match y.exact with
  | some set => StringSet.cross .back x.tails set
  | none => if y.canBeEmpty then StringSet.union .back y.tails x.endings else y.tails

/-- The analysis of two parts in sequence. -/
def concat (limits : Limits) (x y : Analysis) : Analysis :=
  let condition := (x.condition.conj y.condition).conj (seam limits x y)
  let canBeEmpty := x.canBeEmpty && y.canBeEmpty
  simplify limits false <|
    match x.exact, y.exact with
    | some xs, some ys =>
      { canBeEmpty, condition, exact := some (StringSet.cross .front xs ys), heads := [], tails := [] }
    | _, _ =>
      { canBeEmpty, condition, exact := none, heads := concatHeads x y, tails := concatTails x y }

/-- The analysis of two alternatives. -/
def alternate (limits : Limits) (x y : Analysis) : Analysis :=
  let canBeEmpty := x.canBeEmpty || y.canBeEmpty
  simplify limits false <|
    match x.exact, y.exact with
    | some xs, some ys =>
      { canBeEmpty, condition := x.condition.disj y.condition,
        exact := some (StringSet.union .front xs ys), heads := [], tails := [] }
    | _, _ =>
      { canBeEmpty
        condition :=
          if x.exact.isSome then x.withExact.condition.disj y.condition
          else if y.exact.isSome then x.condition.disj y.withExact.condition
          else x.condition.disj y.condition
        exact := none
        heads := StringSet.union .front x.beginnings y.beginnings
        tails := StringSet.union .back x.endings y.endings }

/-- The analysis of one or more times the same part: the set of all matches is no longer known. -/
def repeatedly (a : Analysis) : Analysis :=
  match a.exact with
  | some set => { a with exact := none, heads := set, tails := set }
  | none => a

end Analysis

end TrigramGrep
