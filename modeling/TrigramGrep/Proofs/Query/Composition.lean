import Mathlib
import TrigramGrep.Proofs.Query.Coherence

/-!
# The query of an expression is made of the queries of its parts

Alternatives give the disjunction of their queries, as long as there are not too many of them.  A repetition that
asks for one copy at least gives the query of its body, and every other repetition none.  A sequence asks for no
less than each of its parts.  All this holds for every set of trigrams, whether or not a text has it, and for all
limits.  So whatever is derived from a part reaches the root: nothing is lost on the way there when sets are
crossed, cut or given up.

## Shape of the proof

`Analysis.verdict` says what the query of an analysis says, also of an analysis that has not been made to fit: its
condition holds, and so do the conditions of the sets that have not been put into it yet.  To make an analysis fit
does not change its verdict (`Analysis.verdict_simplify`), because a set goes into the condition before its
strings are cut, and what is left of them gives no trigram.  Then each operation has one equation or implication
for verdicts, and the folds over parts follow by induction.
-/

namespace TrigramGrep

/-- A condition that something meets is not the one that nothing meets. -/
theorem Query.ne_never_of_holds {member : Trigram → Bool} {q : Query} (h : q.holds member = true) :
    q ≠ .never := by
  rintro rfl
  rw [Query.holds_never] at h
  cases h

namespace StringSet

variable (member : Trigram → Bool) {side : Side} {set : StringSet}

/-- A set says that one of its strings has all its trigrams in the text; the empty set says nothing.  A string
that is too short for a trigram is no exception: it has them all. -/
theorem holds_condition_iff :
    set.condition.holds member = true ↔
      set = [] ∨ ∃ s ∈ set, ∀ t ∈ Trigram.windows s, member t = true := by
  rw [holds_condition, Bool.or_eq_true, decide_eq_true_eq, List.any_eq_true]
  simp only [List.all_eq_true, Trigram.mem_distinct]
  constructor
  · rintro (hshort | hlong)
    · by_cases hnil : set = []
      · exact .inl hnil
      · -- the shortest string has no trigram
        obtain ⟨s, hs, hlength⟩ := exists_length_eq_minLength hnil
        rw [← hlength] at hshort
        refine .inr ⟨s, hs, fun t ht => ?_⟩
        rw [Trigram.windows_eq_nil hshort] at ht
        exact absurd ht List.not_mem_nil
    · exact .inr hlong
  · rintro (rfl | hlong)
    · exact .inl (by decide)
    · exact .inr hlong

variable {member}

/-- A string with all its trigrams in a text meets the condition of a set that it belongs to. -/
theorem holds_condition_of_mem {s : Bytes} (hs : s ∈ set) (h : ∀ t ∈ Trigram.windows s, member t = true) :
    set.condition.holds member = true :=
  (holds_condition_iff member).mpr (.inr ⟨s, hs, h⟩)

/-- So does each part of it. -/
theorem holds_condition_of_isInfix {s whole : Bytes} (hs : s ∈ set) (hpart : s <:+: whole)
    (h : ∀ t ∈ Trigram.windows whole, member t = true) : set.condition.holds member = true :=
  holds_condition_of_mem hs fun t ht => h t (Trigram.mem_windows_of_infix hpart ht)

/-- The condition of a set does not depend on the order of its strings. -/
theorem holds_condition_clean : (set.clean side).condition.holds member = set.condition.holds member := by
  rw [Bool.eq_iff_iff, holds_condition_iff, holds_condition_iff, clean_eq_nil_iff]
  simp only [mem_clean]

/-- A string with all its trigrams in a text, out of a set with a member whose condition holds. -/
theorem exists_of_holds_condition (hset : set ≠ []) (h : set.condition.holds member = true) :
    ∃ s ∈ set, ∀ t ∈ Trigram.windows s, member t = true :=
  ((holds_condition_iff member).mp h).resolve_left hset

theorem holds_condition_union {xs ys : StringSet} (hxs : xs ≠ []) (hys : ys ≠ []) :
    (union side xs ys).condition.holds member =
      (xs.condition.holds member || ys.condition.holds member) := by
  have hunion : xs ++ ys ≠ [] := List.append_ne_nil_of_left_ne_nil hxs ys
  rw [union, holds_condition_clean, Bool.eq_iff_iff, Bool.or_eq_true]
  simp only [holds_condition_iff, hxs, hys, hunion, false_or, List.mem_append]
  grind

/-- A condition of products asks for the trigrams of both factors. -/
theorem holds_of_holds_condition_cross {xs ys : StringSet} (hxs : xs ≠ []) (hys : ys ≠ [])
    (h : (cross side xs ys).condition.holds member = true) :
    xs.condition.holds member = true ∧ ys.condition.holds member = true := by
  obtain ⟨s, hs, hall⟩ := exists_of_holds_condition (cross_ne_nil hxs hys) h
  obtain ⟨u, hu, v, hv, rfl⟩ := mem_cross.mp hs
  exact ⟨holds_condition_of_isInfix hu (List.prefix_append u v).isInfix hall,
    holds_condition_of_isInfix hv (List.suffix_append u v).isInfix hall⟩

end StringSet

namespace Analysis

variable (member : Trigram → Bool) {a x y : Analysis}

/-! ## Verdicts -/

/-- What the query of an analysis says of a set of trigrams: its condition holds, and so do those of its sets. -/
def verdict (a : Analysis) : Bool :=
  a.condition.holds member &&
    match a.exact with
    | some set => set.condition.holds member
    | none => a.heads.condition.holds member && a.tails.condition.holds member

theorem verdict_of_some {set : StringSet} (he : a.exact = some set) :
    a.verdict member = (a.condition.holds member && set.condition.holds member) := by
  rw [verdict, he]

theorem verdict_of_none (hn : a.exact = none) :
    a.verdict member =
      (a.condition.holds member && (a.heads.condition.holds member && a.tails.condition.holds member)) := by
  rw [verdict, hn]

/-- Where beginnings and endings give no trigram, all is said when the exact set has gone into the condition. -/
theorem verdict_of_compact (h : a.Compact) : a.verdict member = a.withExact.condition.holds member := by
  cases he : a.exact with
  | some set => rw [verdict_of_some member he, withExact, he, Query.holds_conj]
  | none =>
    rw [verdict_of_none member he, withExact, he, StringSet.condition_of_forall_short (h.heads he),
      StringSet.condition_of_forall_short (h.tails he), Query.holds_always, Bool.and_true, Bool.and_true]

/-- Beginnings and endings go into the condition before they are cut, and afterwards they say nothing. -/
theorem verdict_simplifyBoth (hn : a.exact = none) (limits : Limits) :
    (simplifyTails limits (simplifyHeads limits a)).verdict member = a.verdict member := by
  have hcut (side : Side) (set : StringSet) :
      ((set.reduce side limits.maxSet).prune side).condition = .always :=
    StringSet.condition_of_forall_short fun s hs =>
      StringSet.length_lt_of_mem_reduce (StringSet.mem_of_mem_pruneAfter hs)
  have hn' : (simplifyTails limits (simplifyHeads limits a)).exact = none := hn
  rw [verdict_of_none member hn', verdict_of_none member hn]
  simp [simplifyTails, simplifyHeads, hcut, StringSet.holds_condition_clean, Bool.and_assoc]

/-- A set that is given up has gone into the condition; cut to two bytes, its strings say nothing. -/
theorem verdict_giveUp {set : StringSet} (hset : set ≠ []) :
    (a.giveUp set).verdict member = (a.condition.holds member && set.condition.holds member) := by
  obtain ⟨s, hs⟩ := List.exists_mem_of_ne_nil set hset
  have hshort (side : Side) : (side.keep 2 s).length < 3 := Nat.lt_succ_of_le (StringSet.length_keep_le side 2 s)
  have hheads : (a.giveUp set).heads.condition = .always := by
    rw [heads_giveUp]
    exact StringSet.condition_of_short (List.mem_append_right _ (List.mem_map_of_mem hs)) (hshort .front)
  have htails : (a.giveUp set).tails.condition = .always := by
    rw [tails_giveUp]
    exact StringSet.condition_of_short (List.mem_append_right _ (List.mem_map_of_mem hs)) (hshort .back)
  rw [verdict_of_none member rfl, hheads, htails]
  simp [giveUp, withExact]

/-- To make an analysis fit does not change what its query says. -/
theorem verdict_simplify (limits : Limits) (last : Bool) (a : Analysis) :
    (a.simplify limits last).verdict member = a.verdict member := by
  unfold simplify
  split
  · next set hs =>
    obtain ⟨exact, he, rfl⟩ := Option.map_eq_some_iff.mp hs
    rw [verdict_of_some member he]
    split
    · next hgive =>
      -- the empty set is never given up
      have hne : exact.clean .front ≠ [] := by
        intro hnil
        rw [hnil] at hgive
        simp [givesUp, StringSet.minLength] at hgive
      rw [verdict_simplifyBoth member rfl, verdict_giveUp member hne, StringSet.holds_condition_clean]
    · rw [verdict_of_some member rfl, StringSet.holds_condition_clean]
  · next hs => exact verdict_simplifyBoth member (Option.map_eq_none_iff.mp hs) limits

/-- The query of an expression says what its analysis says. -/
theorem holds_ofRegex (limits : Limits) (r : Regex) :
    (Query.ofRegex limits r).holds member = (ofRegex limits r).verdict member := by
  rw [Query.ofRegex, ← verdict_of_compact member (compact_simplify limits true _), verdict_simplify]

/-! ## Repetitions -/

/-- One copy more says nothing more. -/
theorem verdict_repeatedly (a : Analysis) : a.repeatedly.verdict member = a.verdict member := by
  unfold repeatedly
  split
  · next set he => rw [verdict_of_none member rfl, verdict_of_some member he, Bool.and_self]
  · rfl

/-- An analysis that asks for nothing: the empty text meets it. -/
structure Idle (a : Analysis) : Prop where
  condition : a.condition = .always
  exact : ∀ set, a.exact = some set → [] ∈ set
  heads : a.exact = none → a.heads.Covers .front []
  tails : a.exact = none → a.tails.Covers .back []

theorem Idle.of_some {set : StringSet} (he : a.exact = some set) (hmem : [] ∈ set)
    (hcondition : a.condition = .always) : a.Idle where
  condition := hcondition
  exact other hother := by cases he.symm.trans hother; exact hmem
  heads hn := by cases he.symm.trans hn
  tails hn := by cases he.symm.trans hn

theorem idle_anything : anything.Idle where
  condition := rfl
  exact := nofun
  heads _ := .of_mem List.mem_cons_self
  tails _ := .of_mem List.mem_cons_self

/-- A set with something that the empty text begins or ends with has the empty text in it. -/
theorem condition_of_covers_nil {side : Side} {set : StringSet} (h : set.Covers side []) :
    set.condition = .always := by
  obtain ⟨s, hs, hside⟩ := h
  refine StringSet.condition_of_short hs (Nat.lt_of_le_of_lt (hside.isPart.length_le) ?_)
  decide

theorem Idle.simplifyBoth (h : a.Idle) (hn : a.exact = none) (limits : Limits) :
    (simplifyTails limits (simplifyHeads limits a)).Idle where
  condition := by
    simp [simplifyTails, simplifyHeads, h.condition, condition_of_covers_nil (h.heads hn).clean,
      condition_of_covers_nil (h.tails hn).clean]
  exact := h.exact
  heads _ := ((h.heads hn).clean.reduce _).prune
  tails _ := ((h.tails hn).clean.reduce _).prune

theorem Idle.simplify (h : a.Idle) (limits : Limits) (last : Bool) : (a.simplify limits last).Idle := by
  unfold Analysis.simplify
  split
  · next set hs =>
    obtain ⟨exact, he, rfl⟩ := Option.map_eq_some_iff.mp hs
    have hmem : [] ∈ exact.clean .front := StringSet.mem_clean.mpr (h.exact exact he)
    split
    · refine Idle.simplifyBoth (a := a.giveUp (exact.clean .front)) ⟨?_, nofun, fun _ => ?_, fun _ => ?_⟩ rfl limits
      · simp [giveUp, withExact, h.condition, StringSet.condition_of_short hmem (by decide)]
      · exact .of_mem (List.mem_append_right _ (List.mem_map.mpr ⟨[], hmem, rfl⟩))
      · exact .of_mem (List.mem_append_right _ (List.mem_map.mpr ⟨[], hmem, rfl⟩))
    · exact .of_some rfl hmem h.condition
  · next hs => exact h.simplifyBoth (Option.map_eq_none_iff.mp hs) limits

/-- Something or the empty text asks for nothing. -/
theorem idle_alternate_emptyText (limits : Limits) (x : Analysis) : (alternate limits x emptyText).Idle := by
  unfold alternate
  refine Idle.simplify ?_ limits false
  split
  · next xs ys hxs hys =>
    cases hys
    exact .of_some rfl (StringSet.mem_union.mpr (.inr List.mem_cons_self)) (Query.disj_always _)
  · next hboth =>
    have hxn : x.exact = none :=
      Option.eq_none_iff_forall_ne_some.mpr fun xs hxs => hboth xs [[]] hxs rfl
    refine ⟨?_, nofun, fun _ => .of_mem (StringSet.mem_union.mpr (.inr ?_)),
      fun _ => .of_mem (StringSet.mem_union.mpr (.inr ?_))⟩
    · rw [hxn]
      exact Query.disj_always _
    · exact List.mem_cons_self
    · exact List.mem_cons_self

theorem Idle.condition_atRoot (h : a.Idle) (limits : Limits) :
    (a.simplify limits true).withExact.condition = .always := by
  have h := h.simplify limits true
  unfold withExact
  split
  · exact h.condition
  · next set he => simp [h.condition, StringSet.condition_of_short (h.exact set he)]

/-! ## Alternatives -/

/-- What is said of a text by an analysis with a match is also said by one of its beginnings and by one of its
endings. -/
theorem exists_beginning (h : a.Coherent) (hverdict : a.verdict member = true) :
    (∃ s ∈ a.beginnings, ∀ t ∈ Trigram.windows s, member t = true) ∧
      ∃ s ∈ a.endings, ∀ t ∈ Trigram.windows s, member t = true := by
  cases he : a.exact with
  | some set =>
    rw [verdict_of_some member he, Bool.and_eq_true] at hverdict
    have := StringSet.exists_of_holds_condition (h.exact_ne_nil set he) hverdict.2
    rw [beginnings, endings, he]
    exact ⟨this, this⟩
  | none =>
    rw [verdict_of_none member he, Bool.and_eq_true, Bool.and_eq_true] at hverdict
    obtain ⟨hcondition, hheads, htails⟩ := hverdict
    have hmatch : a.condition ≠ .never := Query.ne_never_of_holds hcondition
    rw [beginnings, endings, he]
    exact ⟨StringSet.exists_of_holds_condition (h.heads_ne_nil he hmatch) hheads,
      StringSet.exists_of_holds_condition (h.tails_ne_nil he hmatch) htails⟩

theorem verdict_alternatives (hx : x.Coherent) (hy : y.Coherent) (hxc : x.Compact) (hyc : y.Compact) :
    (alternatives x y).verdict member = (x.verdict member || y.verdict member) := by
  unfold alternatives
  split
  · next xs ys hxs hys =>
    rw [verdict_of_some member rfl, verdict_of_some member hxs, verdict_of_some member hys,
      hx.condition_of_exact xs hxs, hy.condition_of_exact ys hys,
      StringSet.holds_condition_union (hx.exact_ne_nil xs hxs) (hy.exact_ne_nil ys hys)]
    simp
  · next hboth =>
    -- at most one of the two is exact, and its set goes into its condition
    have hcondition : Query.holds member
        (if x.exact.isSome then x.withExact.condition.disj y.condition
          else if y.exact.isSome then x.condition.disj y.withExact.condition
          else x.condition.disj y.condition) = (x.verdict member || y.verdict member) := by
      have hplain {z : Analysis} (hn : z.exact = none) : z.withExact = z := by rw [withExact, hn]
      rw [verdict_of_compact member hxc, verdict_of_compact member hyc, ← Query.holds_disj]
      rcases exact_eq_none_or hboth with hn | hn
      · rw [hn, hplain hn]
        split
        · contradiction
        · split
          · rfl
          · next hyn => rw [hplain (Option.not_isSome_iff_eq_none.mp hyn)]
      · rw [hn, hplain hn]
        split
        · rfl
        · next hxn => rw [hplain (Option.not_isSome_iff_eq_none.mp hxn)]; rfl
    rw [verdict_of_none member rfl, hcondition]
    cases hverdict : x.verdict member || y.verdict member with
    | false => rfl
    | true =>
      -- whichever of them speaks for the text, one of its beginnings and one of its endings do
      obtain ⟨⟨s, hs, hsall⟩, e, he, heall⟩ :
          (∃ s ∈ StringSet.union .front x.beginnings y.beginnings, ∀ t ∈ Trigram.windows s, member t = true) ∧
            ∃ s ∈ StringSet.union .back x.endings y.endings, ∀ t ∈ Trigram.windows s, member t = true := by
        rcases Bool.or_eq_true_iff.mp hverdict with h | h
        · obtain ⟨⟨s, hs, hsall⟩, e, he, heall⟩ := exists_beginning member hx h
          exact ⟨⟨s, StringSet.mem_union.mpr (.inl hs), hsall⟩, e, StringSet.mem_union.mpr (.inl he), heall⟩
        · obtain ⟨⟨s, hs, hsall⟩, e, he, heall⟩ := exists_beginning member hy h
          exact ⟨⟨s, StringSet.mem_union.mpr (.inr hs), hsall⟩, e, StringSet.mem_union.mpr (.inr he), heall⟩
      rw [StringSet.holds_condition_of_mem hs hsall, StringSet.holds_condition_of_mem he heall]
      rfl

theorem verdict_alternate (hx : x.Coherent) (hy : y.Coherent) (hxc : x.Compact) (hyc : y.Compact)
    (limits : Limits) :
    (alternate limits x y).verdict member = (x.verdict member || y.verdict member) := by
  rw [alternate_eq_simplify, verdict_simplify, verdict_alternatives member hx hy hxc hyc]

/-! ## Sequences -/

/-- A sequence asks for what its parts ask for: a part that is not exact has all of it in its condition, and the
strings of an exact one stand in the beginnings or the endings of the sequence. -/
theorem verdict_of_sequence (hx : x.Coherent) (hy : y.Coherent) (hxc : x.Compact) (hyc : y.Compact)
    (limits : Limits) (h : (sequence limits x y).verdict member = true) :
    x.verdict member = true ∧ y.verdict member = true := by
  unfold sequence at h
  split at h
  · next xs ys hxs hys =>
    rw [verdict_of_some member rfl, Bool.and_eq_true] at h
    rw [verdict_of_some member hxs, verdict_of_some member hys, hx.condition_of_exact xs hxs,
      hy.condition_of_exact ys hys, Query.holds_always, Bool.true_and, Bool.true_and]
    exact StringSet.holds_of_holds_condition_cross (hx.exact_ne_nil xs hxs) (hy.exact_ne_nil ys hys) h.2
  · next hboth =>
    rw [verdict_of_none member rfl] at h
    simp only [Query.holds_conj, Bool.and_eq_true] at h
    obtain ⟨⟨⟨hxholds, hyholds⟩, -⟩, hheads, htails⟩ := h
    refine ⟨?_, ?_⟩
    · rw [verdict_of_compact member hxc, withExact]
      cases hxs : x.exact with
      | none => exact hxholds
      | some xs =>
        have hyn : y.exact = none := (exact_eq_none_or hboth).resolve_left (by simp [hxs])
        rw [concatHeads, hxs] at hheads
        have := StringSet.holds_of_holds_condition_cross (hx.exact_ne_nil xs hxs)
          (hy.heads_ne_nil hyn (Query.ne_never_of_holds hyholds)) hheads
        dsimp only
        rw [Query.holds_conj, hxholds, this.1, Bool.and_self]
    · rw [verdict_of_compact member hyc, withExact]
      cases hys : y.exact with
      | none => exact hyholds
      | some ys =>
        have hxn : x.exact = none := (exact_eq_none_or hboth).resolve_right (by simp [hys])
        rw [concatTails, hys] at htails
        have := StringSet.holds_of_holds_condition_cross (hx.tails_ne_nil hxn (Query.ne_never_of_holds hxholds))
          (hy.exact_ne_nil ys hys) htails
        dsimp only
        rw [Query.holds_conj, hyholds, this.2, Bool.and_self]

/-! ## Folds over parts -/

theorem compact_alternate (limits : Limits) (x y : Analysis) : (alternate limits x y).Compact :=
  compact_simplify limits false _

theorem compact_concat (limits : Limits) (x y : Analysis) : (concat limits x y).Compact :=
  compact_simplify limits false _

theorem verdict_foldl_alternate (limits : Limits) (ha : a.Coherent) (hac : a.Compact) {parts : List Analysis}
    (hparts : ∀ part ∈ parts, Coherent part ∧ Compact part) :
    (parts.foldl (alternate limits) a).verdict member =
      (a.verdict member || parts.any (verdict member)) := by
  induction parts generalizing a with
  | nil => simp
  | cons part parts ih =>
    obtain ⟨hpart, hpartc⟩ := hparts part List.mem_cons_self
    rw [List.foldl_cons, ih (ha.alternate hpart limits) (compact_alternate limits a part)
      fun other hother => hparts other (List.mem_cons_of_mem part hother),
      verdict_alternate member ha hpart hac hpartc, List.any_cons, Bool.or_assoc]

theorem verdict_alternateAll (limits : Limits) {parts : List Analysis}
    (hparts : ∀ part ∈ parts, Coherent part ∧ Compact part) :
    (alternateAll limits parts).verdict member = parts.any (verdict member) := by
  cases parts with
  | nil => simp [alternateAll, verdict, nothing]
  | cons part parts =>
    obtain ⟨hpart, hpartc⟩ := hparts part List.mem_cons_self
    exact verdict_foldl_alternate member limits hpart hpartc fun other hother =>
      hparts other (List.mem_cons_of_mem part hother)

theorem verdict_of_foldl_concat (limits : Limits) (ha : a.Coherent) (hac : a.Compact)
    {parts : List Analysis} (hparts : ∀ part ∈ parts, Coherent part ∧ Compact part)
    (h : (parts.foldl (concat limits) a).verdict member = true) :
    a.verdict member = true ∧ ∀ part ∈ parts, part.verdict member = true := by
  induction parts generalizing a with
  | nil => exact ⟨h, nofun⟩
  | cons part parts ih =>
    obtain ⟨hpart, hpartc⟩ := hparts part List.mem_cons_self
    obtain ⟨hjoined, hothers⟩ := ih (ha.concat hpart limits) (compact_concat limits a part)
      (fun other hother => hparts other (List.mem_cons_of_mem part hother)) h
    rw [concat_eq_simplify, verdict_simplify] at hjoined
    obtain ⟨hfirst, hnext⟩ := verdict_of_sequence member ha hpart hac hpartc limits hjoined
    exact ⟨hfirst, List.forall_mem_cons.mpr ⟨hnext, hothers⟩⟩

theorem verdict_of_concatAll (limits : Limits) {parts : List Analysis}
    (hparts : ∀ part ∈ parts, Coherent part ∧ Compact part)
    (h : (concatAll limits parts).verdict member = true) : ∀ part ∈ parts, part.verdict member = true := by
  cases parts with
  | nil => exact nofun
  | cons part parts =>
    obtain ⟨hpart, hpartc⟩ := hparts part List.mem_cons_self
    exact List.forall_mem_cons.mpr (verdict_of_foldl_concat member limits hpart hpartc
      (fun other hother => hparts other (List.mem_cons_of_mem part hother)) h)

/-- The analyses of expressions with proper classes are coherent and compact. -/
theorem coherent_and_compact_ofParts (limits : Limits) {parts : List Regex}
    (hparts : ∀ part ∈ parts, part.hasProperClasses = true) :
    ∀ a ∈ ofParts limits parts, Coherent a ∧ Compact a := by
  rw [ofParts_eq_map]
  intro a ha
  obtain ⟨part, hpart, rfl⟩ := List.mem_map.mp ha
  exact ⟨coherent_ofRegex limits part (hparts part hpart), compact_ofRegex limits part⟩

end Analysis

/-! ## Queries -/

/-- **The query of an expression is made of those of its parts.**  For all limits, and whichever set of trigrams a
query is asked of:

* not too many alternatives give the disjunction of their queries;
* a repetition of one copy at least gives the query of its body;
* a repetition that may have no copy gives no condition at all;
* a sequence gives no weaker query than any of its parts.

Where parts are joined, their classes have to be made of characters or bytes. -/
theorem Query.ofRegex_parts (limits : Limits) :
    (∀ parts : List Regex, parts.length ≤ limits.maxAlternates →
        (∀ part ∈ parts, part.hasProperClasses = true) → ∀ member,
        (Query.ofRegex limits (.alternation parts)).holds member =
          (Query.any (parts.map (Query.ofRegex limits))).holds member) ∧
      (∀ min max greedy body, 1 ≤ min → ∀ member,
        (Query.ofRegex limits (.repeated min max greedy body)).holds member =
          (Query.ofRegex limits body).holds member) ∧
      (∀ max greedy body, Query.ofRegex limits (.repeated 0 max greedy body) = .always) ∧
      ∀ parts : List Regex, (∀ part ∈ parts, part.hasProperClasses = true) → ∀ part ∈ parts, ∀ member,
        (Query.ofRegex limits (.concat parts)).holds member = true →
          (Query.ofRegex limits part).holds member = true := by
  refine ⟨fun parts hfew hparts member => ?_, fun min max greedy body hmin member => ?_,
    fun max greedy body => ?_, fun parts hparts part hpart member h => ?_⟩
  · have hqueries : (Query.any (parts.map (Query.ofRegex limits))).holds member =
        (Analysis.ofParts limits parts).any (Analysis.verdict member) := by
      rw [Query.holds_any, Analysis.ofParts_eq_map, List.any_map, List.any_map]
      exact congrArg parts.any (funext fun part => Analysis.holds_ofRegex member limits part)
    rw [hqueries, Analysis.holds_ofRegex, Analysis.ofRegex, Analysis.verdict_simplify,
      if_neg (Nat.not_lt.mpr hfew), Analysis.verdict_alternateAll member limits
        (Analysis.coherent_and_compact_ofParts limits hparts)]
  · rw [Analysis.holds_ofRegex, Analysis.holds_ofRegex, Analysis.ofRegex, Analysis.verdict_simplify,
      Analysis.ofRepetition, if_neg (Nat.ne_of_gt hmin), Analysis.verdict_repeatedly]
  · rw [Query.ofRegex, Analysis.ofRegex, Analysis.ofRepetition, if_pos rfl]
    refine Analysis.Idle.condition_atRoot (Analysis.Idle.simplify ?_ limits false) limits
    split
    · exact Analysis.idle_alternate_emptyText limits _
    · exact Analysis.idle_anything
  · rw [Analysis.holds_ofRegex, Analysis.ofRegex, Analysis.verdict_simplify] at h
    rw [Analysis.holds_ofRegex]
    refine Analysis.verdict_of_concatAll member limits
      (Analysis.coherent_and_compact_ofParts limits hparts) h _ ?_
    rw [Analysis.ofParts_eq_map]
    exact List.mem_map_of_mem hpart

/-- A word and a class under caps that keep no set: the trigram of the word is asked for by the alternation only as
one of two possibilities, of which the class gives none, and by the sequence in any case. -/
theorem Query.ofRegex_parts_word :
    let limits : Limits := { maxExact := 0, maxSet := 1, maxClass := 1, maxAlternates := 2 }
    let word : Regex := .literal [97, 98, 99]
    let pair : Regex := .charClass (.bytes [⟨97, 98⟩])
    let some : Trigram → Bool := fun t => t = Trigram.ofBytes 97 98 99
    let none : Trigram → Bool := fun _ => false
    (Query.ofRegex limits (.alternation [word, pair])).holds none =
        (Query.any ([word, pair].map (Query.ofRegex limits))).holds none ∧
      (Query.ofRegex limits (.repeated 2 Option.none true word)).holds none =
        (Query.ofRegex limits word).holds none ∧
      Query.ofRegex limits (.repeated 0 (Option.some 3) true word) = .always ∧
      (Query.ofRegex limits (.concat [pair, word])).holds some = true ∧
      (Query.ofRegex limits word).holds some = true := by
  intro limits word pair some none
  obtain ⟨halternation, hrepeated, hoptional, hconcat⟩ := Query.ofRegex_parts limits
  have hproper : ∀ part ∈ [word, pair], part.hasProperClasses = true := by
    intro part hpart
    simp only [List.mem_cons, List.not_mem_nil, or_false] at hpart
    rcases hpart with rfl | rfl <;> rfl
  have hsequence : (Query.ofRegex limits (.concat [pair, word])).holds some = true := by cbv
  exact ⟨halternation [word, pair] (by decide) hproper none, hrepeated 2 Option.none true word (by decide) none,
    hoptional (Option.some 3) true word, hsequence,
    hconcat [pair, word] (fun part hpart => hproper part ((List.Perm.swap word pair []).mem_iff.mp hpart))
      word (List.mem_cons_of_mem pair (List.mem_singleton.mpr rfl)) some hsequence⟩

end TrigramGrep
