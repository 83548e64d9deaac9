import TrigramGrep.Proofs.Query.Coherence

/-!
# What every derived query has

The query of an expression is put together with `conj` and `disj` from the constants and from the trigrams of
strings, and with nothing else.  So a property that these have and that both operations keep is a property of
every derived query, whatever the expression and the limits are (`Query.Closed.ofRegex`).

While the query is derived it stands in the condition of an analysis; one lemma for each operation on analyses
says that the property is kept there.
-/

namespace TrigramGrep.Query

/-- A property of queries that a derivation cannot leave. -/
structure Closed (P : Query → Prop) : Prop where
  always : P .always
  never : P .never
  has : ∀ first second third, P (.has (Trigram.ofBytes first second third))
  conj : ∀ {a b}, P a → P b → P (a.conj b)
  disj : ∀ {a b}, P a → P b → P (a.disj b)

namespace Closed

variable {P : Query → Prop} {a x y : Analysis}

section

variable (hP : Closed P)
include hP

/-! ## Conditions of strings -/

theorem hasAll {ts : List Trigram} (hts : ∀ t ∈ ts, P (.has t)) : P (hasAll ts) :=
  List.foldlRecOn ts _ hP.always fun _ hq t ht => hP.conj hq (hts t ht)

/-- The trigrams of a string are made of its bytes. -/
theorem hasAll_distinct (text : Bytes) : P (Query.hasAll (Trigram.distinct text)) := by
  refine hP.hasAll fun t ht => ?_
  obtain ⟨window, -, rfl⟩ := List.mem_map.mp (Trigram.mem_distinct.mp ht)
  exact hP.has window.1.1 window.1.2 window.2

theorem condition (set : StringSet) : P set.condition := by
  unfold StringSet.condition
  split
  · exact hP.always
  · exact List.foldlRecOn set _ hP.never fun _ hq s _ => hP.disj hq (hP.hasAll_distinct s)

/-! ## Analyses -/

theorem withExact (ha : P a.condition) : P a.withExact.condition := by
  unfold Analysis.withExact
  split
  · exact ha
  · exact hP.conj ha (hP.condition _)

theorem simplifyBoth (limits : Limits) (ha : P a.condition) :
    P (Analysis.simplifyTails limits (Analysis.simplifyHeads limits a)).condition :=
  hP.conj (hP.conj ha (hP.condition _)) (hP.condition _)

theorem simplify (limits : Limits) (last : Bool) (ha : P a.condition) :
    P (a.simplify limits last).condition := by
  unfold Analysis.simplify
  split
  · next set _ =>
    split
    · exact hP.simplifyBoth limits (hP.conj ha (hP.condition set))
    · exact ha
  · exact hP.simplifyBoth limits ha

theorem seam (limits : Limits) (x y : Analysis) : P (Analysis.seam limits x y) := by
  unfold Analysis.seam
  split
  · exact hP.condition _
  · exact hP.always

theorem concat (limits : Limits) (hx : P x.condition) (hy : P y.condition) :
    P (Analysis.concat limits x y).condition := by
  rw [Analysis.concat_eq_simplify]
  refine hP.simplify limits false ?_
  unfold Analysis.sequence
  split <;> exact hP.conj (hP.conj hx hy) (hP.seam limits x y)

theorem alternate (limits : Limits) (hx : P x.condition) (hy : P y.condition) :
    P (Analysis.alternate limits x y).condition := by
  rw [Analysis.alternate_eq_simplify]
  refine hP.simplify limits false ?_
  unfold Analysis.alternatives
  split
  · exact hP.disj hx hy
  · dsimp only
    split
    · exact hP.disj (hP.withExact hx) hy
    · split
      · exact hP.disj hx (hP.withExact hy)
      · exact hP.disj hx hy

theorem ofClass (limits : Limits) (c : CharClass) : P (Analysis.ofClass limits c).condition := by
  unfold Analysis.ofClass
  split
  · exact hP.never
  · split <;> exact hP.always

theorem ofRepetition (limits : Limits) (min : Nat) (max : Option Nat) (ha : P a.condition) :
    P (Analysis.ofRepetition limits min max a).condition := by
  unfold Analysis.ofRepetition
  split
  · split
    · exact hP.alternate limits ha hP.always
    · exact hP.always
  · unfold Analysis.repeatedly
    split <;> exact ha

theorem concatAll (limits : Limits) {parts : List Analysis} (hparts : ∀ part ∈ parts, P part.condition) :
    P (Analysis.concatAll limits parts).condition := by
  cases parts with
  | nil => exact hP.always
  | cons part parts =>
    obtain ⟨hpart, hparts⟩ := List.forall_mem_cons.mp hparts
    exact List.foldlRecOn parts _ (motive := fun a : Analysis => P a.condition) hpart
      fun x hx y hy => hP.concat limits hx (hparts y hy)

theorem alternateAll (limits : Limits) {parts : List Analysis} (hparts : ∀ part ∈ parts, P part.condition) :
    P (Analysis.alternateAll limits parts).condition := by
  cases parts with
  | nil => exact hP.never
  | cons part parts =>
    obtain ⟨hpart, hparts⟩ := List.forall_mem_cons.mp hparts
    exact List.foldlRecOn parts _ (motive := fun a : Analysis => P a.condition) hpart
      fun x hx y hy => hP.alternate limits hx (hparts y hy)

end

/-! ## Expressions -/

mutual

/-- The condition of the analysis of an expression has the property. -/
theorem condition_ofRegex (hP : Closed P) (limits : Limits) : (r : Regex) → P (Analysis.ofRegex limits r).condition
  | .empty => hP.simplify limits false hP.always
  | .look _ => hP.simplify limits false hP.always
  | .literal _ => hP.simplify limits false hP.always
  | .charClass c => hP.simplify limits false (hP.ofClass limits c)
  | .capture _ _ body => hP.simplify limits false (condition_ofRegex hP limits body)
  | .repeated min max _ body =>
    hP.simplify limits false (hP.ofRepetition limits min max (condition_ofRegex hP limits body))
  | .concat parts => by
    rw [Analysis.ofRegex]
    exact hP.simplify limits false (hP.concatAll limits (condition_ofParts hP limits parts))
  | .alternation parts => by
    rw [Analysis.ofRegex]
    refine hP.simplify limits false ?_
    split
    · exact hP.always
    · exact hP.alternateAll limits (condition_ofParts hP limits parts)

/-- The conditions of the analyses of several expressions have it. -/
theorem condition_ofParts (hP : Closed P) (limits : Limits) : (parts : List Regex) →
    ∀ part ∈ Analysis.ofParts limits parts, P part.condition
  | [] => nofun
  | part :: parts => by
    intro a ha
    rcases List.mem_cons.mp ha with rfl | ha
    · exact condition_ofRegex hP limits part
    · exact condition_ofParts hP limits parts a ha

end

/-- **A property that a derivation cannot leave is one of every derived query.** -/
theorem ofRegex (hP : Closed P) (limits : Limits) (r : Regex) : P (Query.ofRegex limits r) :=
  hP.withExact (hP.simplify limits true (hP.condition_ofRegex limits r))

end Closed

end TrigramGrep.Query
