import TrigramGrep.Proofs.Query.Fixpoints

/-!
# Groups, positions and empty parts leave no trace

A group is analysed as its body and a condition on the position as the empty text.  So an expression may be made plain
before its query is derived: groups are replaced by their bodies, and conditions on the position by the empty
expression.  The query is the very same, for all limits.

The empty expression may be dropped from sequences as well, if an exact set may have one string.  Otherwise the exact
set of the empty text is given up like any other one, and what is left of it says no more than that anything may
begin and end there.  The parts on both sides of it are cut apart: no trigram that lies across the cut is found.  Then
the expression without its empty parts may have a stronger query, and never has a weaker one.

## Shape of the proof

The first two statements hold because an analysis that was made to fit is left alone (`Analysis.simplify_ofRegex`),
and because the exact analysis of the empty text is neutral in a sequence (`Analysis.concat_emptyText`).  The last one
compares the two analyses step by step, as long as nothing is exact.  Their sets are the same, or the blunter one has
the empty string, which makes a set worthless and remains in whatever it is joined with.
-/

namespace TrigramGrep

namespace Regex

/-! ## Plain expressions -/

mutual

/-- An expression with the bodies of its groups in their place, and with the empty expression in place of conditions
on the position. -/
def plain : Regex → Regex
  | .empty => .empty
  | .look _ => .empty
  | .literal bytes => .literal bytes
  | .charClass c => .charClass c
  | .capture _ _ body => plain body
  | .repeated min max greedy body => .repeated min max greedy (plain body)
  | .concat parts => .concat (plainAll parts)
  | .alternation parts => .alternation (plainAll parts)

/-- Several expressions made plain. -/
def plainAll : List Regex → List Regex
  | [] => []
  | part :: parts => plain part :: plainAll parts

end

mutual

/-- An expression without the empty parts of its sequences; all else stays. -/
def withoutEmpty : Regex → Regex
  | .empty => .empty
  | .look condition => .look condition
  | .literal bytes => .literal bytes
  | .charClass c => .charClass c
  | .capture index name body => .capture index name (withoutEmpty body)
  | .repeated min max greedy body => .repeated min max greedy (withoutEmpty body)
  | .concat parts => .concat ((withoutEmptyAll parts).filter (· ≠ .empty))
  | .alternation parts => .alternation (withoutEmptyAll parts)

/-- Several expressions without the empty parts of their sequences. -/
def withoutEmptyAll : List Regex → List Regex
  | [] => []
  | part :: parts => withoutEmpty part :: withoutEmptyAll parts

end

/-- An expression without groups, conditions on the position and empty parts of sequences. -/
def erased (r : Regex) : Regex :=
  r.plain.withoutEmpty

theorem length_plainAll (parts : List Regex) : (plainAll parts).length = parts.length := by
  induction parts with
  | nil => rfl
  | cons part parts ih => rw [plainAll, List.length_cons, List.length_cons, ih]

theorem length_withoutEmptyAll (parts : List Regex) : (withoutEmptyAll parts).length = parts.length := by
  induction parts with
  | nil => rfl
  | cons part parts ih => rw [withoutEmptyAll, List.length_cons, List.length_cons, ih]

/-- No part becomes empty that was not. -/
theorem withoutEmpty_eq_empty_iff (r : Regex) : r.withoutEmpty = .empty ↔ r = .empty := by
  cases r <;> simp [withoutEmpty]

variable {part : Regex}

theorem filter_withoutEmptyAll_empty (parts : List Regex) :
    (withoutEmptyAll (.empty :: parts)).filter (· ≠ .empty) = (withoutEmptyAll parts).filter (· ≠ .empty) :=
  List.filter_cons_of_neg (by simp [withoutEmpty])

theorem filter_withoutEmptyAll_cons (h : part ≠ .empty) (parts : List Regex) :
    (withoutEmptyAll (part :: parts)).filter (· ≠ .empty) =
      part.withoutEmpty :: (withoutEmptyAll parts).filter (· ≠ .empty) :=
  List.filter_cons_of_pos (by simpa using mt (withoutEmpty_eq_empty_iff part).mp h)

mutual

/-- Making an expression plain leaves its classes alone. -/
theorem hasProperClasses_plain : (r : Regex) → r.hasProperClasses = true → r.plain.hasProperClasses = true
  | .empty, h | .literal _, h | .charClass _, h => h
  | .look _, _ => rfl
  | .capture _ _ body, h => hasProperClasses_plain body h
  | .repeated _ _ _ body, h => hasProperClasses_plain body h
  | .concat parts, h | .alternation parts, h => hasProperClasses_plainAll parts h

theorem hasProperClasses_plainAll :
    (parts : List Regex) → allOf (fun | .charClass c => c.isProper | _ => true) parts = true →
    allOf (fun | .charClass c => c.isProper | _ => true) (plainAll parts) = true
  | [], _ => rfl
  | part :: parts, h => by
    obtain ⟨hpart, hparts⟩ := Bool.and_eq_true_iff.mp h
    exact Bool.and_eq_true_iff.mpr ⟨hasProperClasses_plain part hpart, hasProperClasses_plainAll parts hparts⟩

end

end Regex

/-! ## Sets that are worth nothing -/

namespace StringSet

variable {side : Side} {set blunt others bluntOthers : StringSet} {limit : Nat}

/-- A set that is the same as another one, or has the empty string: then it is worth nothing. -/
def Blunter (set blunt : StringSet) : Prop :=
  blunt = set ∨ [] ∈ blunt

theorem Blunter.holds_condition {member : Trigram → Bool} (h : set.Blunter blunt)
    (hset : set.condition.holds member = true) : blunt.condition.holds member = true := by
  rcases h with rfl | hnil
  · exact hset
  · rw [condition_of_short hnil (by decide)]
    exact Query.holds_always member

/-- The empty string is not lost when sets are made to fit. -/
theorem Blunter.fit (h : set.Blunter blunt) (side : Side) (limit : Nat) :
    (set.fit side limit).Blunter (blunt.fit side limit) := by
  rcases h with rfl | hnil
  · exact .inl rfl
  · rw [fit_of_nil_mem hnil]
    exact .inr List.mem_cons_self

/-- Nor is it when sets are joined. -/
theorem Blunter.union (h : set.Blunter blunt) (hothers : others.Blunter bluntOthers) (side : Side) :
    (union side set others).Blunter (union side blunt bluntOthers) := by
  rcases h with rfl | hnil
  · rcases hothers with rfl | hnil
    · exact .inl rfl
    · exact .inr (mem_union.mpr (.inr hnil))
  · exact .inr (mem_union.mpr (.inl hnil))

theorem minLength_lt_three (h : ∀ s ∈ set, s.length < 3) : set.minLength < 3 := by
  cases set with
  | nil => decide
  | cons s set => exact Nat.lt_of_le_of_lt (minLength_le List.mem_cons_self) (h s List.mem_cons_self)

end StringSet

namespace Analysis

variable {a x y z fine fineX fineY : Analysis} {limits : Limits}

mutual

/-- Groups and conditions on the position do not show in an analysis. -/
theorem ofRegex_plain (limits : Limits) : (r : Regex) → ofRegex limits r.plain = ofRegex limits r
  | .empty | .look _ | .literal _ | .charClass _ => rfl
  | .capture _ _ body => by
    rw [Regex.plain, ofRegex_plain limits body, ofRegex, simplify_ofRegex]
  | .repeated _ _ _ body => by
    rw [Regex.plain, ofRegex, ofRegex, ofRegex_plain limits body]
  | .concat parts => by
    rw [Regex.plain, ofRegex, ofRegex, ofParts_plainAll limits parts]
  | .alternation parts => by
    rw [Regex.plain, ofRegex, ofRegex, ofParts_plainAll limits parts, Regex.length_plainAll]

theorem ofParts_plainAll (limits : Limits) : (parts : List Regex) →
    ofParts limits (Regex.plainAll parts) = ofParts limits parts
  | [] => rfl
  | part :: parts => by
    rw [Regex.plainAll, ofParts, ofParts, ofRegex_plain limits part, ofParts_plainAll limits parts]

end

/-! ## Empty parts where the empty text is exact -/

/-- A sequence may as well begin with the empty text. -/
theorem concatAll_eq_foldl (parts : List Regex) :
    concatAll limits (ofParts limits parts) = (ofParts limits parts).foldl (concat limits) emptyText := by
  cases parts with
  | nil => rfl
  | cons part parts =>
    rw [ofParts, List.foldl_cons, emptyText_concat (regular_ofRegex limits part) (simplify_ofRegex limits part)]
    rfl

section Exact

variable (hexact : 1 ≤ limits.maxExact)

include hexact

/-- With room for one exact string, the empty text keeps its exact set. -/
theorem simplify_emptyText : emptyText.simplify limits false = emptyText := by
  have hgives : givesUp limits false [[]] = false := by
    simp [givesUp, StringSet.minLength]
    omega
  rw [simplify, emptyText, ofExact, Option.map_some, StringSet.clean_singleton]
  dsimp only
  rw [hgives]
  rfl

/-- Behind whatever stands before them, empty parts may be dropped. -/
theorem foldl_concat_filter (parts : List Regex) (hregular : a.Regular) (hfits : a.simplify limits false = a) :
    (ofParts limits (parts.filter (· ≠ .empty))).foldl (concat limits) a =
      (ofParts limits parts).foldl (concat limits) a := by
  induction parts generalizing a with
  | nil => rfl
  | cons part parts ih =>
    by_cases hpart : part = .empty
    · have hempty : ofRegex limits .empty = emptyText := simplify_emptyText hexact
      rw [List.filter_cons_of_neg (by simpa using hpart), ih hregular hfits, hpart, ofParts, List.foldl_cons, hempty,
        concat_emptyText hregular hfits]
    · rw [List.filter_cons_of_pos (by simpa using hpart), ofParts, ofParts, List.foldl_cons, List.foldl_cons]
      exact ih (hregular.concat (regular_ofRegex limits part) limits) (simplify_simplify limits _)

theorem concatAll_filter (parts : List Regex) :
    concatAll limits (ofParts limits (parts.filter (· ≠ .empty))) = concatAll limits (ofParts limits parts) := by
  rw [concatAll_eq_foldl, concatAll_eq_foldl]
  exact foldl_concat_filter hexact parts (regular_ofExact [[]]) (simplify_emptyText hexact)

end Exact

mutual

/-- Empty parts of sequences do not show in an analysis. -/
theorem ofRegex_withoutEmpty (hexact : 1 ≤ limits.maxExact) : (r : Regex) →
    ofRegex limits r.withoutEmpty = ofRegex limits r
  | .empty | .look _ | .literal _ | .charClass _ => rfl
  | .capture _ _ body => by
    rw [Regex.withoutEmpty, ofRegex, ofRegex, ofRegex_withoutEmpty hexact body]
  | .repeated _ _ _ body => by
    rw [Regex.withoutEmpty, ofRegex, ofRegex, ofRegex_withoutEmpty hexact body]
  | .concat parts => by
    rw [Regex.withoutEmpty, ofRegex, ofRegex, concatAll_filter hexact, ofParts_withoutEmptyAll hexact parts]
  | .alternation parts => by
    rw [Regex.withoutEmpty, ofRegex, ofRegex, ofParts_withoutEmptyAll hexact parts, Regex.length_withoutEmptyAll]

theorem ofParts_withoutEmptyAll (hexact : 1 ≤ limits.maxExact) : (parts : List Regex) →
    ofParts limits (Regex.withoutEmptyAll parts) = ofParts limits parts
  | [] => rfl
  | part :: parts => by
    rw [Regex.withoutEmptyAll, ofParts, ofParts, ofRegex_withoutEmpty hexact part, ofParts_withoutEmptyAll hexact parts]

end

/-! ## Empty parts where nothing is exact -/

/-- How the analysis of an expression that may have empty parts is related to the one without them: neither is exact,
the sets are the same or worth nothing, and the condition is no stronger. -/
structure Blunter (fine a : Analysis) : Prop where
  exact_fine : fine.exact = none
  exact : a.exact = none
  canBeEmpty : a.canBeEmpty = fine.canBeEmpty
  strings : ∀ side, (fine.strings side).Blunter (a.strings side)
  condition : ∀ member, fine.condition.holds member = true → a.condition.holds member = true

theorem blunter_self (hn : a.exact = none) : a.Blunter a where
  exact_fine := hn
  exact := hn
  canBeEmpty := rfl
  strings _ := .inl rfl
  condition _ := id

theorem condition_simplifyBoth (limits : Limits) (a : Analysis) :
    (simplifyTails limits (simplifyHeads limits a)).condition =
      (a.condition.conj (a.heads.clean .front).condition).conj (a.tails.clean .back).condition := rfl

theorem Blunter.simplify (h : fine.Blunter a) (limits : Limits) (last : Bool) :
    (fine.simplify limits last).Blunter (a.simplify limits last) := by
  have hheads := h.strings .front
  have htails := h.strings .back
  rw [strings_front h.exact, strings_front h.exact_fine] at hheads
  rw [strings_back h.exact, strings_back h.exact_fine] at htails
  rw [simplify_of_none h.exact, simplify_of_none h.exact_fine]
  refine ⟨h.exact_fine, h.exact, h.canBeEmpty, fun side => ?_, fun member hholds => ?_⟩
  · rw [strings_simplifyBoth_eq_fit h.exact, strings_simplifyBoth_eq_fit h.exact_fine]
    exact (h.strings side).fit side limits.maxSet
  · simp only [condition_simplifyBoth, Query.holds_conj, StringSet.holds_condition_clean, Bool.and_eq_true]
      at hholds ⊢
    exact ⟨⟨h.condition member hholds.1.1, hheads.holds_condition hholds.1.2⟩, htails.holds_condition hholds.2⟩

/-! ### What is blank

When the exact set of the empty text is given up, no more is known of it than of anything.  An analysis is blank in
this sense when it is blunter than `anything`. -/

/-- Anything fits as it is. -/
theorem simplify_anything (limits : Limits) : anything.simplify limits false = anything := by
  have hfit (side : Side) : StringSet.fit side limits.maxSet [[]] = [[]] :=
    StringSet.fit_of_nil_mem List.mem_cons_self
  have hcondition : StringSet.condition [[]] = .always := rfl
  simp only [StringSet.fit, StringSet.clean_singleton] at hfit
  rw [simplify_of_none rfl]
  simp [simplifyTails, simplifyHeads, anything, hfit, StringSet.clean_singleton, hcondition]

section Blank

variable (hz : anything.Blunter z)

include hz

theorem Blunter.nil_mem (side : Side) : [] ∈ z.strings side := by
  rcases hz.strings side with heq | hnil
  · rw [heq]
    cases side <;> exact List.mem_cons_self
  · exact hnil

theorem Blunter.holds (member : Trigram → Bool) : z.condition.holds member = true :=
  hz.condition member (Query.holds_always member)

theorem Blunter.simplify_blank (limits : Limits) : anything.Blunter (z.simplify limits false) := by
  have hfit := hz.simplify limits false
  rwa [simplify_anything] at hfit

/-- All that is blank is blunter than whatever may be empty. -/
theorem Blunter.of_canBeEmpty (hn : fine.exact = none) (hempty : fine.canBeEmpty = true) : fine.Blunter z where
  exact_fine := hn
  exact := hz.exact
  canBeEmpty := hz.canBeEmpty.trans hempty.symm
  strings side := .inr (hz.nil_mem side)
  condition member _ := hz.holds member

end Blank

/-! ### Sequences -/

/-- With the empty string on the left side of a seam there is not enough for a trigram. -/
theorem seam_of_nil_mem_tails (limits : Limits) (hy : y.Compact) (h : [] ∈ x.tails) : seam limits x y = .always := by
  apply if_neg
  simp only [Bool.and_eq_true, Option.isNone_iff_eq_none, decide_eq_true_eq]
  rintro ⟨⟨⟨⟨-, hyn⟩, -⟩, -⟩, hlong⟩
  have hleft : x.tails.minLength ≤ 0 := StringSet.minLength_le h
  have hright := StringSet.minLength_lt_three (hy.heads hyn)
  omega

/-- Nor is there with it on the right side. -/
theorem seam_of_nil_mem_heads (limits : Limits) (hx : x.Compact) (h : [] ∈ y.heads) : seam limits x y = .always := by
  apply if_neg
  simp only [Bool.and_eq_true, Option.isNone_iff_eq_none, decide_eq_true_eq]
  rintro ⟨⟨⟨⟨hxn, -⟩, -⟩, -⟩, hlong⟩
  have hleft := StringSet.minLength_lt_three (hx.tails hxn)
  have hright : y.heads.minLength ≤ 0 := StringSet.minLength_le h
  omega

theorem concatHeads_of_none (hx : x.exact = none) :
    concatHeads x y =
      if x.canBeEmpty then StringSet.union .front (x.strings .front) (y.strings .front) else x.strings .front := by
  rw [concatHeads, hx, strings_front hx]
  rfl

theorem concatTails_of_none (hy : y.exact = none) :
    concatTails x y =
      if y.canBeEmpty then StringSet.union .back (y.strings .back) (x.strings .back) else y.strings .back := by
  rw [concatTails, hy, strings_back hy]
  rfl

section Sequence

variable (hx : fineX.Blunter x) (hy : fineY.Blunter y) (hxc : x.Compact) (hyc : y.Compact)

include hx hy hxc hyc

theorem Blunter.holds_seam {member : Trigram → Bool} (h : (seam limits fineX fineY).holds member = true) :
    (seam limits x y).holds member = true := by
  have htails := hx.strings .back
  have hheads := hy.strings .front
  rw [strings_back hx.exact, strings_back hx.exact_fine] at htails
  rw [strings_front hy.exact, strings_front hy.exact_fine] at hheads
  rcases htails with htails | hnil
  · rcases hheads with hheads | hnil
    · have heq : seam limits x y = seam limits fineX fineY := by
        simp only [seam, hx.exact, hx.exact_fine, hy.exact, hy.exact_fine, htails, hheads]
      rwa [heq]
    · rw [seam_of_nil_mem_heads limits hxc hnil]
      exact Query.holds_always member
  · rw [seam_of_nil_mem_tails limits hyc hnil]
    exact Query.holds_always member

theorem Blunter.sequence (limits : Limits) : (sequence limits fineX fineY).Blunter (sequence limits x y) := by
  obtain ⟨hnone, hfront, hback⟩ := sequence_of_none limits (.inl hx.exact : x.exact = none ∨ y.exact = none)
  obtain ⟨hfineNone, hfineFront, hfineBack⟩ :=
    sequence_of_none limits (.inl hx.exact_fine : fineX.exact = none ∨ fineY.exact = none)
  refine ⟨hfineNone, hnone, ?_, fun side => ?_, fun member hholds => ?_⟩
  · rw [canBeEmpty_sequence, canBeEmpty_sequence, hx.canBeEmpty, hy.canBeEmpty]
  · cases side with
    | front =>
      rw [hfront, hfineFront, concatHeads_of_none hx.exact, concatHeads_of_none hx.exact_fine, hx.canBeEmpty]
      split
      · exact (hx.strings .front).union (hy.strings .front) .front
      · exact hx.strings .front
    | back =>
      rw [hback, hfineBack, concatTails_of_none hy.exact, concatTails_of_none hy.exact_fine, hy.canBeEmpty]
      split
      · exact (hy.strings .back).union (hx.strings .back) .back
      · exact hy.strings .back
  · simp only [condition_sequence, Query.holds_conj, Bool.and_eq_true] at hholds ⊢
    exact ⟨⟨hx.condition member hholds.1.1, hy.condition member hholds.1.2⟩,
      hx.holds_seam hy hxc hyc hholds.2⟩

end Sequence

/-- What is blank at the end of a sequence makes it blunter. -/
theorem Blunter.sequence_blank (h : fine.Blunter a) (hc : a.Compact) (hz : anything.Blunter z) (limits : Limits) :
    fine.Blunter (Analysis.sequence limits a z) := by
  obtain ⟨hnone, hfront, hback⟩ := sequence_of_none limits (.inl h.exact : a.exact = none ∨ z.exact = none)
  have hempty : z.canBeEmpty = true := hz.canBeEmpty
  refine ⟨h.exact_fine, hnone, ?_, fun side => ?_, fun member hholds => ?_⟩
  · rw [canBeEmpty_sequence, hempty, Bool.and_true, h.canBeEmpty]
  · cases side with
    | front =>
      rw [hfront, concatHeads_of_none h.exact]
      split
      · exact .inr (StringSet.mem_union.mpr (.inr (hz.nil_mem .front)))
      · exact h.strings .front
    | back =>
      rw [hback, concatTails_of_none hz.exact, if_pos hempty]
      exact .inr (StringSet.mem_union.mpr (.inl (hz.nil_mem .back)))
  · rw [condition_sequence, seam_of_nil_mem_heads limits hc (strings_front hz.exact ▸ hz.nil_mem .front),
      Query.conj_always, Query.holds_conj, h.condition member hholds, hz.holds member, Bool.and_self]

/-- So it does at the beginning. -/
theorem Blunter.blank_sequence (h : fine.Blunter a) (hc : a.Compact) (hz : anything.Blunter z) (limits : Limits) :
    fine.Blunter (Analysis.sequence limits z a) := by
  obtain ⟨hnone, hfront, hback⟩ := sequence_of_none limits (.inl hz.exact : z.exact = none ∨ a.exact = none)
  have hempty : z.canBeEmpty = true := hz.canBeEmpty
  refine ⟨h.exact_fine, hnone, ?_, fun side => ?_, fun member hholds => ?_⟩
  · rw [canBeEmpty_sequence, hempty, Bool.true_and, h.canBeEmpty]
  · cases side with
    | front =>
      rw [hfront, concatHeads_of_none hz.exact, if_pos hempty]
      exact .inr (StringSet.mem_union.mpr (.inl (hz.nil_mem .front)))
    | back =>
      rw [hback, concatTails_of_none h.exact]
      split
      · exact .inr (StringSet.mem_union.mpr (.inr (hz.nil_mem .back)))
      · exact h.strings .back
  · rw [condition_sequence, seam_of_nil_mem_tails limits hc (strings_back hz.exact ▸ hz.nil_mem .back),
      Query.conj_always, Query.holds_conj, h.condition member hholds, hz.holds member, Bool.and_self]

/-! ### Alternatives and repetitions -/

theorem alternatives_eq_of_none (hx : x.exact = none) (hy : y.exact = none) :
    alternatives x y =
      { canBeEmpty := x.canBeEmpty || y.canBeEmpty, condition := x.condition.disj y.condition, exact := none
        heads := StringSet.union .front (x.strings .front) (y.strings .front)
        tails := StringSet.union .back (x.strings .back) (y.strings .back) } := by
  simp [Analysis.alternatives, hx, hy, strings]

theorem Blunter.alternatives (hx : fineX.Blunter x) (hy : fineY.Blunter y) :
    (alternatives fineX fineY).Blunter (alternatives x y) := by
  rw [alternatives_eq_of_none hx.exact hy.exact, alternatives_eq_of_none hx.exact_fine hy.exact_fine]
  refine ⟨rfl, rfl, ?_, fun side => ?_, fun member hholds => ?_⟩
  · rw [hx.canBeEmpty, hy.canBeEmpty]
  · cases side with
    | front => exact (hx.strings .front).union (hy.strings .front) .front
    | back => exact (hx.strings .back).union (hy.strings .back) .back
  · simp only [Query.holds_disj, Bool.or_eq_true] at hholds ⊢
    exact hholds.imp (hx.condition member) (hy.condition member)

/-- Of what may be left out nothing is known. -/
theorem blunter_alternate_emptyText (hn : a.exact = none) (limits : Limits) :
    anything.Blunter (alternate limits a emptyText) := by
  have hblank : anything.Blunter (alternatives a emptyText) := by
    refine ⟨rfl, alternatives_of_none (.inl hn), ?_, fun side => ?_, fun member _ => ?_⟩
    · rw [canBeEmpty_alternatives]
      exact Bool.or_true _
    · have hstrings : emptyText.strings side = [[]] := strings_of_some rfl side
      exact .inr (mem_strings_alternatives.mpr (.inr (hstrings ▸ List.mem_cons_self)))
    · have hnil : StringSet.condition [[]] = .always := rfl
      have hcondition : (alternatives a emptyText).condition = .always := by
        simp [Analysis.alternatives, hn, emptyText, ofExact, withExact, hnil]
      rw [hcondition]
      exact Query.holds_always member
  exact hblank.simplify_blank limits

theorem Blunter.ofRepetition (h : fine.Blunter a) (limits : Limits) (min : Nat) (max : Option Nat) :
    (ofRepetition limits min max fine).Blunter (ofRepetition limits min max a) := by
  unfold Analysis.ofRepetition
  split
  · split
    · have hfine := blunter_alternate_emptyText h.exact_fine limits
      exact (blunter_alternate_emptyText h.exact limits).of_canBeEmpty hfine.exact hfine.canBeEmpty
    · exact blunter_self rfl
  · have hself {b : Analysis} (hn : b.exact = none) : b.repeatedly = b := by rw [repeatedly, hn]
    rwa [hself h.exact, hself h.exact_fine]

/-! ### Expressions -/

/-- Where no string is allowed in an exact set, nothing that fits is exact. -/
theorem exact_of_simplify_eq (hnone : limits.maxExact = 0) (hcoherent : a.Coherent)
    (hfits : a.simplify limits false = a) : a.exact = none := by
  rcases simplify_cases a limits false with ⟨set, he, hgives, -⟩ | ⟨set, -, heq⟩ | ⟨hn, -⟩
  · have hclean : set.clean .front ≠ [] := fun hnil =>
      hcoherent.exact_ne_nil set he (StringSet.clean_eq_nil_iff.mp hnil)
    have hlength := List.length_pos_iff.mpr hclean
    simp only [givesUp, hnone, Bool.or_eq_false_iff, decide_eq_false_iff_not] at hgives
    exact absurd hlength hgives.1.1
  · rw [← hfits, heq]
    rfl
  · exact hn

theorem exact_ofRegex (hnone : limits.maxExact = 0) {r : Regex} (h : r.hasProperClasses = true) :
    (ofRegex limits r).exact = none :=
  exact_of_simplify_eq hnone (coherent_ofRegex limits r h) (simplify_ofRegex limits r)

section Parts

variable (hnone : limits.maxExact = 0)

include hnone

/-- The empty expression is blank. -/
theorem blunter_empty : anything.Blunter (ofRegex limits .empty) := by
  have hempty : (ofRegex limits .empty).canBeEmpty = true := canBeEmpty_simplify emptyText limits false
  have hidle : emptyText.Idle := .of_some rfl List.mem_cons_self rfl
  refine ⟨rfl, exact_ofRegex hnone rfl, hempty, fun side => ?_, fun member _ => ?_⟩
  · exact .inr ((regular_ofRegex limits .empty).nil_mem hempty side)
  · rw [ofRegex, (hidle.simplify limits false).condition]
    exact Query.holds_always member

variable {parts : List Regex}

/-- Behind a part that is not blank, empty parts make the sequence blunter. -/
theorem blunter_foldl_concat
    (hparts : ∀ part ∈ parts, (ofRegex limits part.withoutEmpty).Blunter (ofRegex limits part))
    (hfits : fine.simplify limits false = fine) (h : fine.Blunter a) (hc : a.Compact) :
    ((ofParts limits ((Regex.withoutEmptyAll parts).filter (· ≠ .empty))).foldl (concat limits) fine).Blunter
      ((ofParts limits parts).foldl (concat limits) a) := by
  induction parts generalizing fine a with
  | nil => exact h
  | cons part parts ih =>
    obtain ⟨hpart, hparts⟩ := List.forall_mem_cons.mp hparts
    by_cases hempty : part = .empty
    · have hblunter := (h.sequence_blank hc (blunter_empty hnone) limits).simplify limits false
      rw [hfits] at hblunter
      rw [hempty, Regex.filter_withoutEmptyAll_empty]
      exact ih hparts hfits hblunter (compact_concat limits a _)
    · rw [Regex.filter_withoutEmptyAll_cons hempty]
      exact ih hparts (simplify_simplify limits _)
        ((h.sequence hpart hc (compact_ofRegex limits part) limits).simplify limits false)
        (compact_concat limits a _)

/-- Behind a part that is blank, the first part that is not empty begins the sequence. -/
theorem blunter_blank_foldl_concat
    (hparts : ∀ part ∈ parts, (ofRegex limits part.withoutEmpty).Blunter (ofRegex limits part))
    (hz : anything.Blunter z) (hc : z.Compact) :
    ((concatAll limits (ofParts limits ((Regex.withoutEmptyAll parts).filter (· ≠ .empty)))).simplify
      limits false).Blunter (((ofParts limits parts).foldl (concat limits) z).simplify limits false) := by
  induction parts generalizing z with
  | nil => exact (hz.simplify_blank limits).of_canBeEmpty (blunter_empty hnone).exact (blunter_empty hnone).canBeEmpty
  | cons part parts ih =>
    obtain ⟨hpart, hparts⟩ := List.forall_mem_cons.mp hparts
    by_cases hempty : part = .empty
    · rw [hempty, Regex.filter_withoutEmptyAll_empty]
      exact ih hparts ((hz.sequence_blank hc (blunter_empty hnone) limits).simplify_blank limits) (compact_concat limits z _)
    · have hblunter := (hpart.blank_sequence (compact_ofRegex limits part) hz limits).simplify limits false
      rw [simplify_ofRegex] at hblunter
      rw [Regex.filter_withoutEmptyAll_cons hempty]
      exact (blunter_foldl_concat hnone hparts (simplify_ofRegex limits _) hblunter
        (compact_concat limits z _)).simplify limits false

theorem blunter_concatAll
    (hparts : ∀ part ∈ parts, (ofRegex limits part.withoutEmpty).Blunter (ofRegex limits part)) :
    ((concatAll limits (ofParts limits ((Regex.withoutEmptyAll parts).filter (· ≠ .empty)))).simplify
      limits false).Blunter ((concatAll limits (ofParts limits parts)).simplify limits false) := by
  cases parts with
  | nil => exact blunter_self (blunter_empty hnone).exact
  | cons part parts =>
    obtain ⟨hpart, hparts⟩ := List.forall_mem_cons.mp hparts
    by_cases hempty : part = .empty
    · rw [hempty, Regex.filter_withoutEmptyAll_empty]
      exact blunter_blank_foldl_concat hnone hparts (blunter_empty hnone) (compact_ofRegex limits .empty)
    · rw [Regex.filter_withoutEmptyAll_cons hempty]
      exact (blunter_foldl_concat hnone hparts (simplify_ofRegex limits _) hpart
        (compact_ofRegex limits part)).simplify limits false

omit hnone in
theorem blunter_foldl_alternate
    (hparts : ∀ part ∈ parts, (ofRegex limits part.withoutEmpty).Blunter (ofRegex limits part)) (h : fine.Blunter a) :
    ((ofParts limits (Regex.withoutEmptyAll parts)).foldl (alternate limits) fine).Blunter
      ((ofParts limits parts).foldl (alternate limits) a) := by
  induction parts generalizing fine a with
  | nil => exact h
  | cons part parts ih =>
    obtain ⟨hpart, hparts⟩ := List.forall_mem_cons.mp hparts
    exact ih hparts ((h.alternatives hpart).simplify limits false)

omit hnone in
theorem blunter_alternateAll
    (hparts : ∀ part ∈ parts, (ofRegex limits part.withoutEmpty).Blunter (ofRegex limits part)) :
    (alternateAll limits (ofParts limits (Regex.withoutEmptyAll parts))).Blunter
      (alternateAll limits (ofParts limits parts)) := by
  cases parts with
  | nil => exact blunter_self rfl
  | cons part parts =>
    obtain ⟨hpart, hparts⟩ := List.forall_mem_cons.mp hparts
    exact blunter_foldl_alternate hparts hpart

end Parts

mutual

/-- Where nothing is exact, the analysis of an expression is blunter than without its empty parts. -/
theorem blunter_ofRegex (hnone : limits.maxExact = 0) : (r : Regex) → r.hasProperClasses = true →
    (ofRegex limits r.withoutEmpty).Blunter (ofRegex limits r)
  | .empty, h | .look _, h | .literal _, h | .charClass _, h => blunter_self (exact_ofRegex hnone h)
  | .capture _ _ body, h => (blunter_ofRegex hnone body h).simplify limits false
  | .repeated min max _ body, h => ((blunter_ofRegex hnone body h).ofRepetition limits min max).simplify limits false
  | .concat parts, h => by
    rw [Regex.withoutEmpty, ofRegex, ofRegex]
    exact blunter_concatAll hnone (blunter_ofParts hnone parts h)
  | .alternation parts, h => by
    rw [Regex.withoutEmpty, ofRegex, ofRegex, Regex.length_withoutEmptyAll]
    apply Blunter.simplify
    split
    · exact blunter_self rfl
    · exact blunter_alternateAll (blunter_ofParts hnone parts h)

theorem blunter_ofParts (hnone : limits.maxExact = 0) : (parts : List Regex) →
    Regex.allOf (fun | .charClass c => c.isProper | _ => true) parts = true →
    ∀ part ∈ parts, (ofRegex limits part.withoutEmpty).Blunter (ofRegex limits part)
  | [], _ => nofun
  | part :: parts, h => by
    obtain ⟨hpart, hparts⟩ := Bool.and_eq_true_iff.mp h
    exact List.forall_mem_cons.mpr ⟨blunter_ofRegex hnone part hpart, blunter_ofParts hnone parts hparts⟩

end

/-- At the root there is no exact set to be put into the condition, and the blunter analysis has the weaker query. -/
theorem Blunter.holds_withExact (h : fine.Blunter a) {member : Trigram → Bool}
    (hholds : fine.withExact.condition.holds member = true) : a.withExact.condition.holds member = true := by
  rw [withExact, h.exact_fine] at hholds
  rw [withExact, h.exact]
  exact h.condition member hholds

end Analysis

/-! ## Queries -/

/-- **Groups, positions and empty parts leave no trace in a query.**

* With the bodies of groups in their place and the empty expression in place of conditions on the position, an
  expression has the very same query, for all limits.
* So it has when the empty parts of sequences are dropped as well, if an exact set may have one string.
* For all limits, dropping them does not weaken the query. -/
theorem Query.ofRegex_erased (limits : Limits) (r : Regex) :
    Query.ofRegex limits r.plain = Query.ofRegex limits r ∧
      (1 ≤ limits.maxExact → Query.ofRegex limits r.erased = Query.ofRegex limits r) ∧
      (r.hasProperClasses = true → ∀ member, (Query.ofRegex limits r.erased).holds member = true →
        (Query.ofRegex limits r).holds member = true) := by
  have hplain : Query.ofRegex limits r.plain = Query.ofRegex limits r := by
    rw [Query.ofRegex, Analysis.ofRegex_plain, Query.ofRegex]
  have hexact (h : 1 ≤ limits.maxExact) : Query.ofRegex limits r.erased = Query.ofRegex limits r := by
    rw [Query.ofRegex, Regex.erased, Analysis.ofRegex_withoutEmpty h, Analysis.ofRegex_plain, Query.ofRegex]
  refine ⟨hplain, hexact, fun hproper member hholds => ?_⟩
  by_cases h : 1 ≤ limits.maxExact
  · rwa [← hexact h]
  · have hnone : limits.maxExact = 0 := by omega
    rw [← hplain]
    exact ((Analysis.blunter_ofRegex hnone r.plain (Regex.hasProperClasses_plain r hproper)).simplify
      limits true).holds_withExact hholds

/-- A word behind an anchor, part of it in a group that has an empty part.  And where no exact set is allowed, a class
and two letters, with an anchor between them: without the anchor one of two trigrams is asked for, with it none. -/
theorem Query.ofRegex_erased_word :
    let word : Regex := .concat [.look (.lineStart .whole),
      .capture 1 none (.concat [.literal [104, 101], .empty, .literal [108]]), .literal [108, 111]]
    let split : Regex := .concat [.charClass (.chars [⟨120, 121⟩]), .look (.lineStart .newline), .literal [97, 98]]
    let member : Trigram → Bool := fun t => t = Trigram.ofBytes 120 97 98
    Query.ofRegex {} word.plain = Query.ofRegex {} word ∧ Query.ofRegex {} word.erased = Query.ofRegex {} word ∧
      (Query.ofRegex { maxExact := 0 } split.erased).holds member = true ∧
      (Query.ofRegex { maxExact := 0 } split).holds member = true := by
  intro word split member
  obtain ⟨hplain, herased, -⟩ := Query.ofRegex_erased {} word
  have hholds : (Query.ofRegex { maxExact := 0 } split.erased).holds member = true := by cbv
  exact ⟨hplain, herased (by decide), hholds,
    (Query.ofRegex_erased { maxExact := 0 } split).2.2 (by decide) member hholds⟩

/-- Where no exact set is allowed, the query may depend on an empty part: the two letters behind the class are cut off
from it, and the trigrams that lie across the cut are lost. -/
theorem Query.ofRegex_erased_ne_of_no_exact :
    let limits : Limits := { maxExact := 0 }
    let r : Regex := .concat [.charClass (.chars [⟨120, 121⟩]), .look (.lineStart .newline), .literal [97, 98]]
    r.hasProperClasses = true ∧ Query.ofRegex limits r.erased ≠ Query.ofRegex limits r := by
  intro limits r
  refine ⟨by decide, fun heq => ?_⟩
  have herased : (Query.ofRegex limits r.erased).holds (fun _ => false) = false := by cbv
  have hkept : (Query.ofRegex limits r).holds (fun _ => false) = true := by cbv
  rw [heq, hkept] at herased
  cases herased

end TrigramGrep
