import Mathlib.Data.List.Destutter
import TrigramGrep.Proofs.Query.Strings

/-!
# Analyses that have been made to fit

To make an analysis fit a second time changes nothing: its sets are sorted and pruned and no longer cut, and what is
left of beginnings and endings has no trigram to give to the condition.

From this it follows that the exact analysis of the empty text may stand on either side of a sequence.  Two things
have to be known of the other part.  Beside an exact set it has no beginnings and no endings.  And if it can match the
empty text, then the empty string is among its strings on each side; in a set that has been pruned it stands alone
there, and to add it once more adds nothing.
-/

namespace TrigramGrep

/-! ## Sets that fit -/

namespace StringSet

variable {side : Side} {set other : StringSet} {s : Bytes} {limit : Nat}

theorem clean_clean (side : Side) (set : StringSet) : (set.clean side).clean side = set.clean side :=
  clean_of_pairwise (pairwise_clean side set)

/-- What is left of a sorted set is sorted. -/
theorem clean_of_sublist (h : set.clean side = set) (hsub : other.Sublist set) : other.clean side = other :=
  clean_of_pairwise ((h ▸ pairwise_clean side set).sublist hsub)

/-- Pruning keeps of the strings in order each one that does not have the one kept before it at its side. -/
theorem prune_eq_destutter (side : Side) (set : StringSet) :
    set.prune side = set.destutter fun s t => side.isWithin s t = false := by
  have hafter (kept : Bytes) (set : StringSet) : kept :: pruneAfter side (some kept) set =
      set.destutter' (fun s t => side.isWithin s t = false) kept := by
    induction set generalizing kept with
    | nil => rfl
    | cons s set ih =>
      rw [pruneAfter, Option.any_some, List.destutter']
      by_cases hwithin : side.isWithin kept s = true
      · rw [if_pos hwithin, if_neg (by simp [hwithin]), ih]
      · rw [if_neg hwithin, if_pos (by simpa using hwithin), ih]
  cases set with
  | nil => rfl
  | cons s set => exact hafter s set

theorem prune_prune (side : Side) (set : StringSet) : (set.prune side).prune side = set.prune side := by
  rw [prune_eq_destutter, prune_eq_destutter, List.destutter_idem]

theorem prune_sublist (side : Side) (set : StringSet) : (set.prune side).Sublist set := by
  rw [prune_eq_destutter]
  exact List.destutter_sublist _ set

/-- Strings that are short enough are not cut. -/
theorem shorten_of_forall_length_le {length : Nat} (hclean : set.clean side = set)
    (h : ∀ s ∈ set, s.length ≤ length) : set.shorten side length = set := by
  have hkeep : set.map (side.keep length) = set := by
    conv_rhs => rw [← List.map_id set]
    exact List.map_congr_left fun s hs => Side.keep_of_length_le (h s hs)
  rw [shorten, hkeep, hclean]

/-- A string that stands in a set many times and alone is left there once. -/
theorem clean_eq_singleton (side : Side) (hne : set ≠ []) (h : ∀ t ∈ set, t = s) : set.clean side = [s] := by
  have hall : ∀ t ∈ set.clean side, t = s := fun t ht => h t (mem_clean.mp ht)
  have hnodup := nodup_clean side set
  match hset : set.clean side with
  | [] => exact absurd (clean_eq_nil_iff.mp hset) hne
  | [t] => rw [hall t (by simp [hset])]
  | t :: u :: rest =>
    rw [hset] at hnodup hall
    have htu : t = u := (hall t (by simp)).trans (hall u (by simp)).symm
    simp [htu] at hnodup

/-- Where nothing is left of the strings, one empty string is left of the set. -/
theorem shorten_zero (side : Side) (h : set ≠ []) : set.shorten side 0 = [[]] :=
  clean_eq_singleton side (fun heq => h (List.map_eq_nil_iff.mp heq)) fun s hs => by
    obtain ⟨t, -, rfl⟩ := List.mem_map.mp hs
    exact List.eq_nil_of_length_eq_zero (Nat.le_zero.mp (length_keep_le side 0 t))

theorem clean_reduce (side : Side) (limit : Nat) (set : StringSet) :
    (set.reduce side limit).clean side = set.reduce side limit := by
  unfold reduce
  dsimp only
  split
  · exact clean_clean side _
  · split <;> exact clean_clean side _

/-- A set is cut until it keeps to its limit, or nothing is left to cut. -/
theorem reduce_fits (side : Side) (limit : Nat) (set : StringSet) :
    (set.reduce side limit).length ≤ limit ∨ set.reduce side limit = [[]] := by
  unfold reduce
  dsimp only
  split
  · next htwo => exact .inl htwo
  · split
    · next hone => exact .inl hone
    · next hone =>
      refine .inr (shorten_zero side fun hnil => hone ?_)
      rw [hnil]
      exact Nat.zero_le limit

/-- A sorted set of short strings that keeps to its limit is not cut any more, nor is one with nothing to cut. -/
theorem reduce_of_fits (hclean : set.clean side = set) (hshort : ∀ s ∈ set, s.length ≤ 2)
    (hfits : set.length ≤ limit ∨ set = [[]]) : set.reduce side limit = set := by
  rcases hfits with hlength | rfl
  · have htwo := shorten_of_forall_length_le hclean hshort
    rw [reduce, htwo, if_pos hlength]
  · have hcut (length : Nat) : shorten side length [[]] = [[]] :=
      shorten_of_forall_length_le hclean (by simp)
    simp [reduce, hcut]

/-- A set of beginnings or endings that is made to fit: it is sorted, cut and pruned. -/
def fit (side : Side) (limit : Nat) (set : StringSet) : StringSet :=
  ((set.clean side).reduce side limit).prune side

theorem length_lt_of_mem_fit (hs : s ∈ set.fit side limit) : s.length < 3 :=
  length_lt_of_mem_reduce (mem_of_mem_pruneAfter hs)

theorem clean_fit (side : Side) (limit : Nat) (set : StringSet) :
    (set.fit side limit).clean side = set.fit side limit :=
  clean_of_sublist (clean_reduce side limit _) (prune_sublist side _)

/-- A set that fits is left as it is. -/
theorem fit_fit (side : Side) (limit : Nat) (set : StringSet) :
    (set.fit side limit).fit side limit = set.fit side limit := by
  have hfits : (set.fit side limit).length ≤ limit ∨ set.fit side limit = [[]] := by
    rcases reduce_fits side limit (set.clean side) with hlength | hnil
    · exact .inl (Nat.le_trans (prune_sublist side _).length_le hlength)
    · right
      rw [fit, hnil]
      rfl
  have hreduce := reduce_of_fits (clean_fit side limit set)
    (fun s hs => Nat.le_of_lt_succ (length_lt_of_mem_fit hs)) hfits
  conv_lhs => rw [fit, clean_fit, hreduce]
  exact prune_prune side _

/-- Every string has the empty one at its side, so of a set that has it no other string is left. -/
theorem fit_of_nil_mem (h : [] ∈ set) : set.fit side limit = [[]] := by
  have hnil : [] ∈ (set.clean side).reduce side limit := by
    have hcovers : Covers side set [] := .of_mem h
    obtain ⟨s, hs, hside⟩ := hcovers.clean.reduce limit
    rwa [List.eq_nil_of_infix_nil hside.isPart] at hs
  have hsorted : ((set.clean side).reduce side limit).Pairwise fun s t => side.le s t = true ∧ s ≠ t :=
    clean_reduce side limit (set.clean side) ▸ pairwise_clean side _
  have hprune (rest : StringSet) : pruneAfter side (some []) rest = [] := by
    induction rest with
    | nil => rfl
    | cons s rest ih => rw [pruneAfter, Option.any_some, if_pos (Side.isWithin_iff.mpr (side.bounds_nil s)), ih]
  rw [fit]
  cases hset : (set.clean side).reduce side limit with
  | nil => rw [hset] at hnil; cases hnil
  | cons s rest =>
    -- the empty string is the least of all, so it is the first one
    have hs : s = [] := by
      rw [hset] at hnil hsorted
      rcases List.mem_cons.mp hnil with hs | hrest
      · exact hs.symm
      · obtain ⟨hle, -⟩ := (List.pairwise_cons.mp hsorted).1 [] hrest
        apply side.inwards_injective
        have hleast : side.inwards ([] : Bytes) = [] := by cases side <;> rfl
        rw [hleast]
        exact List.le_nil.mp (hleast ▸ of_decide_eq_true hle)
    rw [hs]
    exact congrArg ([] :: ·) (hprune rest)

/-! ## The empty string beside a set -/

theorem cross_nil_left (side : Side) (set : StringSet) : cross side [[]] set = set.clean side := by
  simp [cross]

theorem cross_nil_right (side : Side) (set : StringSet) : cross side set [[]] = set.clean side := by
  simp [cross, List.flatMap_singleton']

theorem union_nil_nil (side : Side) : union side [[]] [[]] = [[]] :=
  clean_eq_singleton side (by simp) (by simp)

end StringSet

namespace Analysis

variable {a x y : Analysis} {limits : Limits}

/-! ## Making an analysis fit twice -/

theorem strings_simplifyBoth_eq_fit (hn : a.exact = none) (limits : Limits) (side : Side) :
    (simplifyTails limits (simplifyHeads limits a)).strings side = (a.strings side).fit side limits.maxSet :=
  strings_simplifyBoth hn limits side

/-- Beginnings and endings that fit add nothing to the condition, and they are left as they are. -/
theorem simplify_simplifyBoth (hn : a.exact = none) (limits : Limits) (last : Bool) :
    (simplifyTails limits (simplifyHeads limits a)).simplify limits last =
      simplifyTails limits (simplifyHeads limits a) := by
  have hcondition (side : Side) (set : StringSet) : ((set.fit side limits.maxSet).clean side).condition = .always := by
    rw [StringSet.clean_fit]
    exact StringSet.condition_of_forall_short fun s hs => StringSet.length_lt_of_mem_fit hs
  have hfit (side : Side) (set : StringSet) := StringSet.fit_fit side limits.maxSet set
  have hheads := hcondition .front a.heads
  have htails := hcondition .back a.tails
  simp only [StringSet.fit] at hfit hheads htails
  simp only [simplify, simplifyTails, simplifyHeads, hn, Option.map_none, hfit, hheads, htails, Query.conj_always]

/-- An analysis that has been made to fit is left as it is. -/
theorem simplify_simplify (limits : Limits) (a : Analysis) :
    (a.simplify limits false).simplify limits false = a.simplify limits false := by
  rcases simplify_cases a limits false with ⟨set, -, hgives, heq⟩ | ⟨set, -, heq⟩ | ⟨hn, heq⟩
  · rw [heq, simplify, Option.map_some, StringSet.clean_clean]
    dsimp only
    rw [hgives]
    rfl
  · rw [heq]
    exact simplify_simplifyBoth rfl limits false
  · rw [heq]
    exact simplify_simplifyBoth hn limits false

/-- The analysis of an expression has been made to fit. -/
theorem simplify_ofRegex (limits : Limits) (r : Regex) :
    (ofRegex limits r).simplify limits false = ofRegex limits r := by
  cases r <;> exact simplify_simplify limits _

section Fits

variable (hfits : a.simplify limits false = a)

include hfits

/-- The exact set of an analysis that fits is sorted. -/
theorem clean_of_simplify_eq {set : StringSet} (he : a.exact = some set) : set.clean .front = set := by
  rcases simplify_cases a limits false with ⟨exact, hexact, -, heq⟩ | ⟨exact, -, heq⟩ | ⟨hn, -⟩
  · rw [hfits] at heq
    have := congrArg Analysis.exact heq
    cases he.symm.trans hexact
    exact (Option.some.inj (he.symm.trans this)).symm
  · rw [hfits] at heq
    have := congrArg Analysis.exact heq
    cases he.symm.trans this
  · cases hn.symm.trans he

/-- Its beginnings and endings fit. -/
theorem fit_strings_of_simplify_eq (hn : a.exact = none) (side : Side) :
    (a.strings side).fit side limits.maxSet = a.strings side := by
  rw [← strings_simplifyBoth_eq_fit hn limits side, ← simplify_of_none hn limits false, hfits]

theorem clean_strings_of_simplify_eq (hn : a.exact = none) (side : Side) :
    (a.strings side).clean side = a.strings side := by
  rw [← fit_strings_of_simplify_eq hfits hn side]
  exact StringSet.clean_fit side limits.maxSet _

end Fits

/-! ## Analyses of what may be empty -/

/-- Beside an exact set there are no beginnings and no endings, and if the empty text may be matched, the empty string
is there on each side. -/
structure Regular (a : Analysis) : Prop where
  heads_of_exact : ∀ set, a.exact = some set → a.heads = []
  tails_of_exact : ∀ set, a.exact = some set → a.tails = []
  nil_mem : a.canBeEmpty = true → ∀ side, [] ∈ a.strings side

theorem Regular.of_none (hn : a.exact = none) (h : a.canBeEmpty = true → ∀ side, [] ∈ a.strings side) : a.Regular where
  heads_of_exact set he := by cases hn.symm.trans he
  tails_of_exact set he := by cases hn.symm.trans he
  nil_mem := h

theorem regular_ofExact (set : StringSet) : (ofExact set).Regular where
  heads_of_exact _ _ := rfl
  tails_of_exact _ _ := rfl
  nil_mem h side := by
    obtain ⟨s, hs, hnil⟩ := List.any_eq_true.mp h
    rw [strings_of_some rfl]
    exact List.isEmpty_iff.mp hnil ▸ hs

namespace Regular

theorem simplify (h : a.Regular) (limits : Limits) (last : Bool) : (a.simplify limits last).Regular := by
  rcases simplify_cases a limits last with ⟨set, he, -, heq⟩ | ⟨set, he, heq⟩ | ⟨hn, heq⟩
  · rw [heq]
    refine ⟨fun _ _ => h.heads_of_exact set he, fun _ _ => h.tails_of_exact set he, fun hempty side => ?_⟩
    have hnil := h.nil_mem hempty side
    rw [strings_of_some he] at hnil
    rw [strings_of_some rfl]
    exact StringSet.mem_clean.mpr hnil
  · rw [heq]
    refine .of_none rfl fun hempty side => ?_
    have hnil := h.nil_mem hempty side
    rw [strings_of_some he] at hnil
    have hkept : [] ∈ (set.clean .front).map (side.keep 2) :=
      List.mem_map.mpr ⟨[], StringSet.mem_clean.mpr hnil, Side.keep_of_length_le (Nat.zero_le 2)⟩
    rw [strings_simplifyBoth_eq_fit rfl, strings_giveUp (h.heads_of_exact set he) (h.tails_of_exact set he),
      StringSet.fit_of_nil_mem hkept]
    exact List.mem_cons_self
  · rw [heq]
    refine .of_none hn fun hempty side => ?_
    rw [strings_simplifyBoth_eq_fit hn, StringSet.fit_of_nil_mem (h.nil_mem hempty side)]
    exact List.mem_cons_self

theorem sequence (hx : x.Regular) (hy : y.Regular) (limits : Limits) : (sequence limits x y).Regular := by
  by_cases hn : x.exact = none ∨ y.exact = none
  · obtain ⟨hnone, hfront, hback⟩ := sequence_of_none limits hn
    refine .of_none hnone fun hempty side => ?_
    rw [canBeEmpty_sequence, Bool.and_eq_true] at hempty
    obtain ⟨hxempty, hyempty⟩ := hempty
    have hxnil := hx.nil_mem hxempty
    have hynil := hy.nil_mem hyempty
    cases side with
    | front =>
      rw [hfront]
      cases hxs : x.exact with
      | none => exact (mem_concatHeads hxs).mpr (.inr ⟨hxempty, hynil .front⟩)
      | some xs =>
        have hyn : y.exact = none := hn.resolve_left (by simp [hxs])
        rw [concatHeads, hxs]
        exact StringSet.mem_cross.mpr ⟨[], strings_of_some hxs .front ▸ hxnil .front, [],
          strings_front hyn ▸ hynil .front, rfl⟩
    | back =>
      rw [hback]
      cases hys : y.exact with
      | none => exact (mem_concatTails hys).mpr (.inr ⟨hyempty, hxnil .back⟩)
      | some ys =>
        have hxn : x.exact = none := hn.resolve_right (by simp [hys])
        rw [concatTails, hys]
        exact StringSet.mem_cross.mpr ⟨[], strings_back hxn ▸ hxnil .back, [],
          strings_of_some hys .back ▸ hynil .back, rfl⟩
  · obtain ⟨hxs, hys⟩ := not_or.mp hn
    obtain ⟨xs, hxs⟩ := Option.ne_none_iff_exists'.mp hxs
    obtain ⟨ys, hys⟩ := Option.ne_none_iff_exists'.mp hys
    have hxnil := hx.nil_mem
    have hynil := hy.nil_mem
    simp only [strings_of_some hxs, strings_of_some hys] at hxnil hynil
    unfold Analysis.sequence
    rw [hxs, hys]
    refine ⟨fun _ _ => rfl, fun _ _ => rfl, fun hempty side => ?_⟩
    obtain ⟨hxempty, hyempty⟩ := Bool.and_eq_true_iff.mp hempty
    rw [strings_of_some rfl]
    exact StringSet.mem_cross.mpr ⟨[], hxnil hxempty side, [], hynil hyempty side, rfl⟩

theorem alternatives (hx : x.Regular) (hy : y.Regular) : (alternatives x y).Regular := by
  have hnil (hempty : (Analysis.alternatives x y).canBeEmpty = true) (side : Side) :
      [] ∈ (Analysis.alternatives x y).strings side := by
    rw [canBeEmpty_alternatives, Bool.or_eq_true] at hempty
    exact mem_strings_alternatives.mpr (hempty.imp (hx.nil_mem · side) (hy.nil_mem · side))
  refine ⟨fun set he => ?_, fun set he => ?_, hnil⟩ <;>
  · revert he
    unfold Analysis.alternatives
    split
    · exact fun _ => rfl
    · exact nofun

theorem repeatedly (h : a.Regular) : a.repeatedly.Regular :=
  .of_none (exact_repeatedly a) fun hempty side => by
    rw [canBeEmpty_repeatedly] at hempty
    rw [strings_repeatedly]
    exact h.nil_mem hempty side

theorem concat (hx : x.Regular) (hy : y.Regular) (limits : Limits) : (concat limits x y).Regular :=
  (hx.sequence hy limits).simplify limits false

theorem alternate (hx : x.Regular) (hy : y.Regular) (limits : Limits) : (alternate limits x y).Regular :=
  (hx.alternatives hy).simplify limits false

theorem ofClass (limits : Limits) (c : CharClass) : (ofClass limits c).Regular := by
  unfold Analysis.ofClass
  split
  · exact .of_none rfl nofun
  · split
    · exact .of_none rfl nofun
    · exact regular_ofExact c.strings

theorem anything : anything.Regular :=
  .of_none rfl fun _ side => by cases side <;> exact List.mem_cons_self

theorem ofRepetition (h : a.Regular) (limits : Limits) (min : Nat) (max : Option Nat) :
    (ofRepetition limits min max a).Regular := by
  unfold Analysis.ofRepetition
  split
  · split
    · exact h.alternate (regular_ofExact [[]]) limits
    · exact anything
  · exact h.repeatedly

theorem concatAll (limits : Limits) {parts : List Analysis} (hparts : ∀ part ∈ parts, Regular part) :
    (concatAll limits parts).Regular := by
  cases parts with
  | nil => exact regular_ofExact [[]]
  | cons part parts =>
    obtain ⟨hpart, hparts⟩ := List.forall_mem_cons.mp hparts
    exact List.foldlRecOn parts _ hpart fun x hx y hy => hx.concat (hparts y hy) limits

theorem alternateAll (limits : Limits) {parts : List Analysis} (hparts : ∀ part ∈ parts, Regular part) :
    (alternateAll limits parts).Regular := by
  cases parts with
  | nil => exact .of_none rfl nofun
  | cons part parts =>
    obtain ⟨hpart, hparts⟩ := List.forall_mem_cons.mp hparts
    exact List.foldlRecOn parts _ hpart fun x hx y hy => hx.alternate (hparts y hy) limits

end Regular

mutual

/-- The analysis of an expression is regular. -/
theorem regular_ofRegex (limits : Limits) : (r : Regex) → (ofRegex limits r).Regular
  | .empty => (regular_ofExact [[]]).simplify limits false
  | .look _ => (regular_ofExact [[]]).simplify limits false
  | .literal bytes => (regular_ofExact [bytes]).simplify limits false
  | .charClass c => (Regular.ofClass limits c).simplify limits false
  | .capture _ _ body => (regular_ofRegex limits body).simplify limits false
  | .repeated min max _ body => ((regular_ofRegex limits body).ofRepetition limits min max).simplify limits false
  | .concat parts => by
    rw [ofRegex]
    exact (Regular.concatAll limits (regular_ofParts limits parts)).simplify limits false
  | .alternation parts => by
    rw [ofRegex]
    refine Regular.simplify ?_ limits false
    split
    · exact .anything
    · exact Regular.alternateAll limits (regular_ofParts limits parts)

/-- The analyses of several expressions are regular. -/
theorem regular_ofParts (limits : Limits) : (parts : List Regex) → ∀ a ∈ ofParts limits parts, Regular a
  | [] => nofun
  | part :: parts => List.forall_mem_cons.mpr ⟨regular_ofRegex limits part, regular_ofParts limits parts⟩

end

/-! ## The empty text in a sequence -/

section Neutral

variable (hregular : a.Regular) (hfits : a.simplify limits false = a)

include hregular hfits

/-- If an analysis that is not exact has the empty string on a side, it has no other one there. -/
theorem strings_of_canBeEmpty (hn : a.exact = none) (hempty : a.canBeEmpty = true) (side : Side) :
    a.strings side = [[]] := by
  rw [← fit_strings_of_simplify_eq hfits hn side, StringSet.fit_of_nil_mem (hregular.nil_mem hempty side)]

/-- The empty text at the end of a sequence changes nothing. -/
theorem concat_emptyText : concat limits a emptyText = a := by
  have hsequence : sequence limits a emptyText = a := by
    obtain ⟨canBeEmpty, exact, heads, tails, condition⟩ := a
    cases exact with
    | some set =>
      obtain rfl : heads = [] := hregular.heads_of_exact set rfl
      obtain rfl : tails = [] := hregular.tails_of_exact set rfl
      have hclean := clean_of_simplify_eq hfits rfl
      simp [sequence, emptyText, ofExact, seam, StringSet.cross_nil_right, hclean]
    | none =>
      have hclean := clean_strings_of_simplify_eq hfits rfl .back
      rw [strings_back rfl] at hclean
      have hheads : (if canBeEmpty = true then StringSet.union .front heads [[]] else heads) = heads := by
        split
        · next hempty =>
          obtain rfl : heads = [[]] := strings_of_canBeEmpty hregular hfits rfl hempty .front
          exact StringSet.union_nil_nil .front
        · rfl
      simp [sequence, emptyText, ofExact, seam, concatHeads, concatTails, beginnings, StringSet.cross_nil_right, hclean,
        hheads]
  rw [concat_eq_simplify, hsequence, hfits]

/-- The empty text at its beginning changes nothing. -/
theorem emptyText_concat : concat limits emptyText a = a := by
  have hsequence : sequence limits emptyText a = a := by
    obtain ⟨canBeEmpty, exact, heads, tails, condition⟩ := a
    cases exact with
    | some set =>
      obtain rfl : heads = [] := hregular.heads_of_exact set rfl
      obtain rfl : tails = [] := hregular.tails_of_exact set rfl
      have hclean := clean_of_simplify_eq hfits rfl
      simp [sequence, emptyText, ofExact, seam, StringSet.cross_nil_left, hclean]
    | none =>
      have hclean := clean_strings_of_simplify_eq hfits rfl .front
      rw [strings_front rfl] at hclean
      have htails : (if canBeEmpty = true then StringSet.union .back tails [[]] else tails) = tails := by
        split
        · next hempty =>
          obtain rfl : tails = [[]] := strings_of_canBeEmpty hregular hfits rfl hempty .back
          exact StringSet.union_nil_nil .back
        · rfl
      simp [sequence, emptyText, ofExact, seam, concatHeads, concatTails, endings, StringSet.cross_nil_left, hclean,
        htails]
  rw [concat_eq_simplify, hsequence, hfits]

end Neutral

end Analysis

end TrigramGrep
