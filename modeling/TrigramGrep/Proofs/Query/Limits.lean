import TrigramGrep.Proofs.Query.Soundness
import TrigramGrep.Proofs.Query.Strings

/-!
# Queries under wider limits

Limits bound the work that goes into a query, and what is given up on the way makes the query weaker.  Yet wider
limits do not always give a stronger query: a class that is still spelled out makes a set of beginnings larger, and
once the set is too large all its strings are cut, those of other parts among them.  Under narrower limits, where
the class was given up at once, these strings may stay whole and give a trigram later on.

So wider limits are safe where they leave room for every set of beginnings or endings that can come up.  Strings in
such a set have at most two bytes, and there are `1 + 256 + 256 ^ 2` of them.  Limits with this much room never cut
a string because of other ones, and then their query implies the query under all narrower limits.

## Shape of the proof

The two runs are compared step by step.  `Analysis.Finer` relates what they have found for the same part:

* As long as the narrower run knows the set of all matches, the wider one has found just the same.
* Otherwise the strings of the narrower run stand at the side of those of the wider one, so whatever trigrams a
  string of the wider run has, one of the narrower run has no others.
* What the query of the wider run is met by, that of the narrower run is met by, too.

To make two related analyses fit leaves them related, and so does each operation.  The seam of a sequence is where
room is needed: the narrower run takes its condition from the two sets on both sides, and the wider run, which has
longer strings there, has to take it as well.
-/

namespace TrigramGrep

/-- Limits that are nowhere above others. -/
structure Limits.AtMost (limits wider : Limits) : Prop where
  maxExact : limits.maxExact ≤ wider.maxExact
  maxSet : limits.maxSet ≤ wider.maxSet
  maxClass : limits.maxClass ≤ wider.maxClass
  maxAlternates : limits.maxAlternates ≤ wider.maxAlternates

namespace Analysis

variable {a x y : Analysis} {limits wider : Limits}

/-! ## A finer and a coarser analysis of the same part -/

/-- How the analysis of a part under wide limits is related to the one under narrow limits. -/
structure Finer (fine a : Analysis) : Prop where
  coherent_fine : fine.Coherent
  coherent : a.Coherent
  eq_of_exact : ∀ set, a.exact = some set → fine = a
  canBeEmpty : fine.canBeEmpty = true → a.canBeEmpty = true
  covers : ∀ side, ∀ s ∈ fine.strings side, (a.strings side).Covers side s
  verdict : ∀ member, fine.verdict member = true → a.verdict member = true

/-- The same when both have been made to fit, the finer one with a limit for its sets. -/
structure Settled (limit : Nat) (fine a : Analysis) : Prop extends Finer fine a where
  compact_fine : fine.Compact
  compact : a.Compact
  length_le : fine.exact = none → ∀ side, (fine.strings side).length ≤ limit

variable {fine fineX fineY : Analysis}

theorem Coherent.finer (h : a.Coherent) : a.Finer a where
  coherent_fine := h
  coherent := h
  eq_of_exact _ _ := rfl
  canBeEmpty := id
  covers _ _ hs := .of_mem hs
  verdict _ := id

/-- What the wider run has given up, the narrower one has, too. -/
theorem Finer.exact_eq_none (h : fine.Finer a) (hn : fine.exact = none) : a.exact = none := by
  apply Option.eq_none_iff_forall_ne_some.mpr
  intro set he
  rw [h.eq_of_exact set he, he] at hn
  cases hn

/-- And if both know the set of all matches, it is the same. -/
theorem Finer.exact_eq (h : fine.Finer a) {wide set : StringSet} (hwide : fine.exact = some wide)
    (he : a.exact = some set) : wide = set := by
  rw [h.eq_of_exact set he, he] at hwide
  exact (Option.some.inj hwide).symm

/-- To know nothing is the coarsest analysis, unless what is known is that there is no empty match. -/
theorem Coherent.finer_open (h : fine.Coherent) {canBeEmpty : Bool}
    (hempty : fine.canBeEmpty = true → canBeEmpty = true) : fine.Finer { anything with canBeEmpty } where
  coherent_fine := h
  coherent := .of_none rfl nofun nofun
  eq_of_exact := nofun
  canBeEmpty := hempty
  covers side s _ := by
    refine ⟨[], ?_, side.bounds_nil s⟩
    cases side <;> exact List.mem_cons_self
  verdict _ _ := rfl

theorem Coherent.finer_anything (h : fine.Coherent) : fine.Finer anything :=
  h.finer_open fun _ => rfl

/-- An exact set that narrow limits keep is kept by wide ones. -/
theorem simplify_eq_of_exact {last : Bool} {set : StringSet} (hlimits : limits.AtMost wider)
    (he : (a.simplify limits last).exact = some set) : a.simplify wider last = a.simplify limits last := by
  rcases simplify_cases a limits last with ⟨exact, hexact, hgives, hnarrow⟩ | ⟨exact, -, hnarrow⟩ | ⟨hn, hnarrow⟩
  · have hwide : givesUp wider last (exact.clean .front) = false := by
      have := hlimits.maxExact
      simp only [givesUp, Bool.or_eq_false_iff, decide_eq_false_iff_not] at hgives ⊢
      exact ⟨⟨by omega, hgives.1.2⟩, hgives.2⟩
    rw [hnarrow, simplify, hexact, Option.map_some]
    dsimp only
    rw [hwide]
    rfl
  · rw [hnarrow] at he
    cases he
  · rw [hnarrow] at he
    cases hn.symm.trans he

/-- Making both analyses fit, each to its own limits, leaves the finer one finer. -/
theorem Finer.simplify (h : fine.Finer a) (hlimits : limits.AtMost wider)
    (hroom : 1 + 256 + 256 ^ 2 ≤ wider.maxSet) (last : Bool) :
    (fine.simplify wider last).Settled wider.maxSet (a.simplify limits last) := by
  have hexact : ∀ set, (a.simplify limits last).exact = some set →
      fine.simplify wider last = a.simplify limits last := by
    intro set he
    obtain ⟨exact, hexact⟩ := exists_exact_of_simplify he
    rw [h.eq_of_exact exact hexact, simplify_eq_of_exact hlimits he]
  refine ⟨⟨h.coherent_fine.simplify wider last, h.coherent.simplify limits last, hexact, ?_, ?_, ?_⟩,
    compact_simplify wider last fine, compact_simplify limits last a, length_strings_simplify_le hroom⟩
  · rw [canBeEmpty_simplify, canBeEmpty_simplify]
    exact h.canBeEmpty
  · intro side s hs
    rcases he : (a.simplify limits last).exact with _ | set
    · -- the finer string is one of before or two bytes of it, and the coarser ones have two bytes at most
      obtain ⟨t, ht, hst⟩ := exists_of_mem_simplify h.coherent_fine hroom hs
      have hcovers := covers_simplify h.coherent limits last (h.covers side t ht)
      rcases hst with rfl | rfl
      · exact hcovers
      · exact (compact_simplify limits last a).covers_keep he hcovers
    · rw [hexact set he] at hs
      exact .of_mem hs
  · intro member hverdict
    rw [verdict_simplify] at hverdict ⊢
    exact h.verdict member hverdict

/-! ## Sequences -/

/-- Exact parts give the same analysis in sequence, whatever the limits are. -/
theorem sequence_eq_of_exact {xs : StringSet} (hxs : x.exact = some xs) (limits wider : Limits) (y : Analysis) :
    sequence limits x y = sequence wider x y := by
  simp only [sequence, seam, hxs]
  rfl

section Strings

variable (hx : Finer fineX x) (hy : Finer fineY y)

include hx hy

theorem Finer.covers_concatHeads (hn : x.exact = none ∨ y.exact = none) {s : Bytes}
    (hs : s ∈ (sequence wider fineX fineY).strings .front) : (concatHeads x y).Covers .front s := by
  rcases hfine : fineX.exact with _ | xs
  · have hxn : x.exact = none := hx.exact_eq_none hfine
    rw [(sequence_of_none wider (.inl hfine)).2.1, mem_concatHeads hfine] at hs
    rcases hs with hs | ⟨hempty, hs⟩
    · have hcovers := hx.covers .front s (by rwa [strings_front hfine])
      rw [strings_front hxn] at hcovers
      exact hcovers.mono fun t ht => (mem_concatHeads hxn).mpr (.inl ht)
    · exact (hy.covers .front s hs).mono fun t ht =>
        (mem_concatHeads hxn).mpr (.inr ⟨hx.canBeEmpty hempty, ht⟩)
  · obtain ⟨u, hu, v, hv, rfl⟩ := exists_of_mem_beginnings_sequence hfine hs
    apply Analysis.covers_concatHeads hn
    · intro set he
      rwa [← hx.exact_eq hfine he]
    · intro hxn
      rw [← strings_front hxn]
      exact hx.covers .front u (by rwa [strings_of_some hfine])
    · intro hyn
      rw [← strings_front hyn]
      exact hy.covers .front v hv

theorem Finer.covers_concatTails (hn : x.exact = none ∨ y.exact = none) {s : Bytes}
    (hs : s ∈ (sequence wider fineX fineY).strings .back) : (concatTails x y).Covers .back s := by
  rcases hfine : fineY.exact with _ | ys
  · have hyn : y.exact = none := hy.exact_eq_none hfine
    rw [(sequence_of_none wider (.inr hfine)).2.2, mem_concatTails hfine] at hs
    rcases hs with hs | ⟨hempty, hs⟩
    · have hcovers := hy.covers .back s (by rwa [strings_back hfine])
      rw [strings_back hyn] at hcovers
      exact hcovers.mono fun t ht => (mem_concatTails hyn).mpr (.inl ht)
    · exact (hx.covers .back s hs).mono fun t ht =>
        (mem_concatTails hyn).mpr (.inr ⟨hy.canBeEmpty hempty, ht⟩)
  · obtain ⟨u, hu, v, hv, rfl⟩ := exists_of_mem_endings_sequence hfine hs
    apply Analysis.covers_concatTails hn
    · intro set he
      rwa [← hy.exact_eq hfine he]
    · intro hxn
      rw [← strings_back hxn]
      exact hx.covers .back u hu
    · intro hyn
      rw [← strings_back hyn]
      exact hy.covers .back v (by rwa [strings_of_some hfine])

/-- Where a sequence is not exact, the strings of the narrower run stand at the sides of those of the wider one. -/
theorem Finer.covers_sequence (hn : x.exact = none ∨ y.exact = none) (limits : Limits) (side : Side) :
    ∀ s ∈ (sequence wider fineX fineY).strings side, ((sequence limits x y).strings side).Covers side s := by
  intro s hs
  cases side with
  | front =>
    rw [(sequence_of_none limits hn).2.1]
    exact hx.covers_concatHeads hy hn hs
  | back =>
    rw [(sequence_of_none limits hn).2.2]
    exact hx.covers_concatTails hy hn hs

end Strings

section Seam

variable (hx : Settled wider.maxSet fineX x) (hy : Settled wider.maxSet fineY y) {member : Trigram → Bool}

include hx hy

/-- Where both runs have sets on both sides of the seam, a seam that is long enough in the narrower one is taken by
the wider one: its strings are no shorter, and there is room for all of them. -/
theorem Settled.seam_eq (hfx : fineX.exact = none) (hfy : fineY.exact = none)
    (htails : fineX.tails ≠ []) (hheads : fineY.heads ≠ []) (hlong : 3 ≤ x.tails.minLength + y.heads.minLength) :
    seam wider fineX fineY = (StringSet.cross .front fineX.tails fineY.heads).condition := by
  have hxcovers := hx.covers .back
  have hycovers := hy.covers .front
  have hxroom := hx.length_le hfx .back
  have hyroom := hy.length_le hfy .front
  rw [strings_back hfx] at hxcovers hxroom
  rw [strings_front hfy] at hycovers hyroom
  rw [strings_back (hx.exact_eq_none hfx)] at hxcovers
  rw [strings_front (hy.exact_eq_none hfy)] at hycovers
  have hxlong := StringSet.minLength_le_of_covers htails hxcovers
  have hylong := StringSet.minLength_le_of_covers hheads hycovers
  apply if_pos
  simp only [hfx, hfy, Option.isNone_none, Bool.true_and, Bool.and_eq_true, decide_eq_true_eq]
  omega

/-- The wider run has a string across the seam that all is said of: it is part of an exact beginning or ending, or
its sets give the condition of the seam. -/
theorem Settled.exists_across_seam (hlong : 3 ≤ x.tails.minLength + y.heads.minLength)
    (hverdict : (sequence wider fineX fineY).verdict member = true) :
    ∃ u ∈ fineX.strings .back, ∃ v ∈ fineY.strings .front, ∀ t ∈ Trigram.windows (u ++ v), member t = true := by
  have hcoherent := hx.coherent_fine.sequence hy.coherent_fine wider
  rcases hfx : fineX.exact with _ | xs
  · rcases hfy : fineY.exact with _ | ys
    · have hcondition : (sequence wider fineX fineY).condition.holds member = true :=
        (Bool.and_eq_true_iff.mp hverdict).1
      rw [condition_sequence, Query.holds_conj, Query.holds_conj, Bool.and_eq_true, Bool.and_eq_true] at hcondition
      obtain ⟨⟨hxholds, hyholds⟩, hseam⟩ := hcondition
      have htails : fineX.tails ≠ [] := hx.coherent_fine.tails_ne_nil hfx (Query.ne_never_of_holds hxholds)
      have hheads : fineY.heads ≠ [] := hy.coherent_fine.heads_ne_nil hfy (Query.ne_never_of_holds hyholds)
      rw [hx.seam_eq hy hfx hfy htails hheads hlong] at hseam
      obtain ⟨s, hs, hall⟩ :=
        StringSet.exists_of_holds_condition (StringSet.cross_ne_nil htails hheads) hseam
      obtain ⟨u, hu, v, hv, rfl⟩ := StringSet.mem_cross.mp hs
      rw [strings_back hfx, strings_front hfy]
      exact ⟨u, hu, v, hv, hall⟩
    · obtain ⟨s, hs, hall⟩ := exists_string hcoherent hverdict .back
      obtain ⟨u, hu, v, hv, rfl⟩ := exists_of_mem_endings_sequence hfy hs
      exact ⟨u, hu, v, by rwa [strings_of_some hfy], hall⟩
  · obtain ⟨s, hs, hall⟩ := exists_string hcoherent hverdict .front
    obtain ⟨u, hu, v, hv, rfl⟩ := exists_of_mem_beginnings_sequence hfx hs
    exact ⟨u, by rwa [strings_of_some hfx], v, hv, hall⟩

/-- So the condition that the narrower run takes from the seam is met by whatever meets the query of the wider
run. -/
theorem Settled.holds_seam (limits : Limits) (hverdict : (sequence wider fineX fineY).verdict member = true) :
    (seam limits x y).holds member = true := by
  unfold seam
  split
  · next hactive =>
    simp only [Bool.and_eq_true, Option.isNone_iff_eq_none, decide_eq_true_eq] at hactive
    obtain ⟨⟨⟨⟨hxn, hyn⟩, -⟩, -⟩, hlong⟩ := hactive
    obtain ⟨u, hu, v, hv, hall⟩ := hx.exists_across_seam hy hlong hverdict
    obtain ⟨p, hp, hpu⟩ := hx.covers .back u hu
    obtain ⟨q, hq, hqv⟩ := hy.covers .front v hv
    rw [strings_back hxn] at hp
    rw [strings_front hyn] at hq
    refine StringSet.holds_condition_of_isInfix (StringSet.mem_cross.mpr ⟨p, hp, q, hq, rfl⟩) ?_ hall
    -- an ending of the left string and a beginning of the right one meet at the seam
    obtain ⟨before, rfl⟩ := Side.bounds_back.mp hpu
    obtain ⟨after, rfl⟩ := Side.bounds_front.mp hqv
    exact ⟨before, after, by simp⟩
  · exact Query.holds_always member

/-- Whatever meets the query of a sequence in the wider run meets it in the narrower one. -/
theorem Settled.verdict_sequence (hn : x.exact = none ∨ y.exact = none) (limits : Limits)
    (hverdict : (sequence wider fineX fineY).verdict member = true) :
    (sequence limits x y).verdict member = true := by
  have hnone := (sequence_of_none limits hn).1
  have hcoherent := hx.coherent_fine.sequence hy.coherent_fine wider
  have hset (side : Side) : ((sequence limits x y).strings side).condition.holds member = true := by
    obtain ⟨s, hs, hall⟩ := exists_string hcoherent hverdict side
    exact StringSet.holds_condition_of_covers
      (hx.toFiner.covers_sequence hy.toFiner hn limits side s hs) hall
  obtain ⟨hxverdict, hyverdict⟩ :=
    verdict_of_sequence member hx.coherent_fine hy.coherent_fine hx.compact_fine hy.compact_fine wider hverdict
  have hxholds : x.condition.holds member = true := (Bool.and_eq_true_iff.mp (hx.verdict member hxverdict)).1
  have hyholds : y.condition.holds member = true := (Bool.and_eq_true_iff.mp (hy.verdict member hyverdict)).1
  have hheads := hset .front
  have htails := hset .back
  rw [strings_front hnone] at hheads
  rw [strings_back hnone] at htails
  rw [verdict_of_none member hnone, condition_sequence, Query.holds_conj, Query.holds_conj, hxholds, hyholds,
    hx.holds_seam hy limits hverdict, hheads, htails]
  rfl

/-- In sequence, finer parts give a finer analysis. -/
theorem Settled.sequence (limits : Limits) : (sequence wider fineX fineY).Finer (sequence limits x y) := by
  by_cases hn : x.exact = none ∨ y.exact = none
  · refine ⟨hx.coherent_fine.sequence hy.coherent_fine wider, hx.coherent.sequence hy.coherent limits, ?_, ?_,
      hx.toFiner.covers_sequence hy.toFiner hn limits, fun member => hx.verdict_sequence hy hn limits⟩
    · intro set he
      cases (sequence_of_none limits hn).1.symm.trans he
    · rw [canBeEmpty_sequence, canBeEmpty_sequence, Bool.and_eq_true, Bool.and_eq_true]
      exact And.imp hx.canBeEmpty hy.canBeEmpty
  · obtain ⟨hxs, hys⟩ := not_or.mp hn
    obtain ⟨xs, hxs⟩ := Option.ne_none_iff_exists'.mp hxs
    obtain ⟨ys, hys⟩ := Option.ne_none_iff_exists'.mp hys
    rw [hx.eq_of_exact xs hxs, hy.eq_of_exact ys hys, sequence_eq_of_exact hxs wider limits]
    exact (hx.coherent.sequence hy.coherent limits).finer

end Seam

/-! ## Alternatives -/

theorem Settled.alternatives {limit : Nat} (hx : Settled limit fineX x) (hy : Settled limit fineY y) :
    (alternatives fineX fineY).Finer (alternatives x y) where
  coherent_fine := hx.coherent_fine.alternatives hy.coherent_fine
  coherent := hx.coherent.alternatives hy.coherent
  eq_of_exact set he := by
    have hn : ¬(x.exact = none ∨ y.exact = none) := by
      intro hn
      cases (alternatives_of_none hn).symm.trans he
    obtain ⟨hxs, hys⟩ := not_or.mp hn
    obtain ⟨xs, hxs⟩ := Option.ne_none_iff_exists'.mp hxs
    obtain ⟨ys, hys⟩ := Option.ne_none_iff_exists'.mp hys
    rw [hx.eq_of_exact xs hxs, hy.eq_of_exact ys hys]
  canBeEmpty := by
    rw [canBeEmpty_alternatives, canBeEmpty_alternatives, Bool.or_eq_true, Bool.or_eq_true]
    exact Or.imp hx.canBeEmpty hy.canBeEmpty
  covers side s hs := by
    rcases mem_strings_alternatives.mp hs with hs | hs
    · exact (hx.covers side s hs).mono fun t ht => mem_strings_alternatives.mpr (.inl ht)
    · exact (hy.covers side s hs).mono fun t ht => mem_strings_alternatives.mpr (.inr ht)
  verdict member := by
    rw [verdict_alternatives member hx.coherent_fine hy.coherent_fine hx.compact_fine hy.compact_fine,
      verdict_alternatives member hx.coherent hy.coherent hx.compact hy.compact, Bool.or_eq_true, Bool.or_eq_true]
    exact Or.imp (hx.verdict member) (hy.verdict member)

/-! ## Repetitions and classes -/

theorem Finer.repeatedly (h : fine.Finer a) : fine.repeatedly.Finer a.repeatedly where
  coherent_fine := h.coherent_fine.repeatedly
  coherent := h.coherent.repeatedly
  eq_of_exact set he := by
    cases (exact_repeatedly a).symm.trans he
  canBeEmpty := by
    rw [canBeEmpty_repeatedly, canBeEmpty_repeatedly]
    exact h.canBeEmpty
  covers side := by
    rw [strings_repeatedly, strings_repeatedly]
    exact h.covers side
  verdict member := by
    rw [verdict_repeatedly, verdict_repeatedly]
    exact h.verdict member

theorem settled_emptyText (limit : Nat) : Settled limit emptyText emptyText :=
  ⟨coherent_emptyText.finer, ⟨nofun, nofun⟩, ⟨nofun, nofun⟩, nofun⟩

theorem settled_nothing (limit : Nat) : Settled limit nothing nothing := by
  refine ⟨coherent_nothing.finer, ⟨fun _ => nofun, fun _ => nofun⟩, ⟨fun _ => nofun, fun _ => nofun⟩, fun _ side => ?_⟩
  cases side <;> exact Nat.zero_le limit

section Runs

variable (hlimits : limits.AtMost wider) (hroom : 1 + 256 + 256 ^ 2 ≤ wider.maxSet)

include hlimits in
/-- A class that the narrower run spells out is spelled out by the wider one. -/
theorem finer_ofClass {c : CharClass} (h : c.isProper = true) : (ofClass wider c).Finer (ofClass limits c) := by
  have hle := hlimits.maxClass
  have hfine := coherent_ofClass wider h
  by_cases hempty : c.set.size = 0
  · rw [ofClass, ofClass, if_pos hempty, if_pos hempty]
    exact coherent_nothing.finer
  · by_cases hlarge : limits.maxClass < c.set.size
    · have hcoarse : ofClass limits c = anyCharacter := by rw [ofClass, if_neg hempty, if_pos hlarge]
      rw [hcoarse]
      apply hfine.finer_open
      intro hcan
      rw [ofClass, if_neg hempty] at hcan
      by_cases hwide : wider.maxClass < c.set.size
      · rwa [if_pos hwide] at hcan
      · rw [if_neg hwide] at hcan
        obtain ⟨s, hs, hnil⟩ := List.any_eq_true.mp hcan
        exact absurd (List.isEmpty_iff.mp hnil ▸ hs) (nil_notMem_strings c)
    · have hsame : ofClass wider c = ofClass limits c := by
        rw [ofClass, ofClass, if_neg hempty, if_neg hempty, if_neg hlarge, if_neg (by omega)]
      rw [← hsame]
      exact hfine.finer

include hlimits hroom

theorem Settled.concat (hx : Settled wider.maxSet fineX x) (hy : Settled wider.maxSet fineY y) :
    Settled wider.maxSet (concat wider fineX fineY) (concat limits x y) :=
  (hx.sequence hy limits).simplify hlimits hroom false

theorem Settled.alternate (hx : Settled wider.maxSet fineX x) (hy : Settled wider.maxSet fineY y) :
    Settled wider.maxSet (alternate wider fineX fineY) (alternate limits x y) :=
  (hx.alternatives hy).simplify hlimits hroom false

theorem Settled.ofRepetition (h : Settled wider.maxSet fine a) (min : Nat) (max : Option Nat) :
    (ofRepetition wider min max fine).Finer (ofRepetition limits min max a) := by
  unfold Analysis.ofRepetition
  by_cases hmin : min = 0
  · rw [if_pos hmin, if_pos hmin]
    by_cases hmax : max = some 1
    · rw [if_pos hmax, if_pos hmax]
      exact (h.alternate hlimits hroom (settled_emptyText wider.maxSet)).toFiner
    · rw [if_neg hmax, if_neg hmax]
      exact coherent_anything.finer
  · rw [if_neg hmin, if_neg hmin]
    exact h.toFiner.repeatedly

/-! ## Folds over parts -/

omit hlimits hroom in
theorem Settled.foldl {limit : Nat} {join joinFine : Analysis → Analysis → Analysis}
    (hjoin : ∀ {fineX x fineY y}, Settled limit fineX x → Settled limit fineY y →
      Settled limit (joinFine fineX fineY) (join x y))
    {fines parts : List Analysis} (hparts : List.Forall₂ (Settled limit) fines parts) (h : Settled limit fine a) :
    Settled limit (fines.foldl joinFine fine) (parts.foldl join a) := by
  induction hparts generalizing fine a with
  | nil => exact h
  | cons hpart _ ih => exact ih (hjoin h hpart)

theorem settled_concatAll {fines parts : List Analysis}
    (hparts : List.Forall₂ (Settled wider.maxSet) fines parts) :
    Settled wider.maxSet (concatAll wider fines) (concatAll limits parts) := by
  cases hparts with
  | nil => exact settled_emptyText wider.maxSet
  | cons hpart hparts => exact hpart.foldl (fun hx hy => hx.concat hlimits hroom hy) hparts

theorem settled_alternateAll {fines parts : List Analysis}
    (hparts : List.Forall₂ (Settled wider.maxSet) fines parts) :
    Settled wider.maxSet (alternateAll wider fines) (alternateAll limits parts) := by
  cases hparts with
  | nil => exact settled_nothing wider.maxSet
  | cons hpart hparts => exact hpart.foldl (fun hx hy => hx.alternate hlimits hroom hy) hparts

end Runs

/-! ## Expressions -/

mutual

/-- Of the two analyses of an expression the one under wider limits is finer. -/
theorem settled_ofRegex (hlimits : limits.AtMost wider) (hroom : 1 + 256 + 256 ^ 2 ≤ wider.maxSet) :
    (r : Regex) → r.hasProperClasses = true → Settled wider.maxSet (ofRegex wider r) (ofRegex limits r)
  | .empty, _ => coherent_emptyText.finer.simplify hlimits hroom false
  | .look _, _ => coherent_emptyText.finer.simplify hlimits hroom false
  | .literal bytes, _ => (coherent_ofExact (List.cons_ne_nil bytes [])).finer.simplify hlimits hroom false
  | .charClass _, h => (finer_ofClass hlimits h).simplify hlimits hroom false
  | .capture _ _ body, h => (settled_ofRegex hlimits hroom body h).toFiner.simplify hlimits hroom false
  | .repeated min max _ body, h =>
    ((settled_ofRegex hlimits hroom body h).ofRepetition hlimits hroom min max).simplify hlimits hroom false
  | .concat parts, h => by
    rw [ofRegex, ofRegex]
    exact (settled_concatAll hlimits hroom
      (settled_ofParts hlimits hroom parts h)).toFiner.simplify hlimits hroom false
  | .alternation parts, h => by
    rw [ofRegex, ofRegex]
    apply Finer.simplify _ hlimits hroom false
    have hle := hlimits.maxAlternates
    have hall := settled_alternateAll hlimits hroom (settled_ofParts hlimits hroom parts h)
    by_cases hmany : limits.maxAlternates < parts.length
    · -- the narrower run does not look into the alternatives
      rw [if_pos hmany]
      apply Coherent.finer_anything
      split
      · exact coherent_anything
      · exact hall.coherent_fine
    · rw [if_neg hmany, if_neg (by omega)]
      exact hall.toFiner

/-- So for the analyses of several expressions. -/
theorem settled_ofParts (hlimits : limits.AtMost wider) (hroom : 1 + 256 + 256 ^ 2 ≤ wider.maxSet) :
    (parts : List Regex) → Regex.allOf (fun | .charClass c => c.isProper | _ => true) parts = true →
    List.Forall₂ (Settled wider.maxSet) (ofParts wider parts) (ofParts limits parts)
  | [], _ => .nil
  | part :: parts, h => by
    obtain ⟨hpart, hparts⟩ := Bool.and_eq_true_iff.mp h
    exact .cons (settled_ofRegex hlimits hroom part hpart) (settled_ofParts hlimits hroom parts hparts)

end

end Analysis

/-! ## Queries -/

/-- **Wider limits only strengthen the query, if they leave room.**  Of two choices of limits, one nowhere above the
other, the wider one having room for all strings of at most two bytes in its sets: whatever meets the query under the
wider limits meets the query under the narrower ones. -/
theorem Query.ofRegex_of_wider {limits wider : Limits} (hlimits : limits.AtMost wider)
    (hroom : 1 + 256 + 256 ^ 2 ≤ wider.maxSet) {r : Regex} (hproper : r.hasProperClasses = true)
    (member : Trigram → Bool) (h : (Query.ofRegex wider r).holds member = true) :
    (Query.ofRegex limits r).holds member = true := by
  rw [Analysis.holds_ofRegex] at h ⊢
  exact (Analysis.settled_ofRegex hlimits hroom r hproper).verdict member h

/-- A class with two characters that is spelled out by the wider limits alone: the first alternative is met, and it
is the stronger one there. -/
theorem Query.ofRegex_of_wider_class :
    let limits : Limits := { maxSet := 2, maxClass := 1 }
    let wider : Limits := { maxSet := 65793, maxClass := 2 }
    let r : Regex := .concat [.literal [97, 98], .alternation
      [.concat [.literal [99, 100], .repeated 0 none true (.charClass (.bytes [⟨0, 255⟩]))],
        .concat [.literal [120], .charClass (.chars [⟨101, 102⟩])]]]
    let member : Trigram → Bool := fun t => t = Trigram.ofBytes 97 98 99 || t = Trigram.ofBytes 98 99 100
    limits.AtMost wider ∧ (Query.ofRegex wider r).holds member = true ∧
      (Query.ofRegex limits r).holds member = true := by
  intro limits wider r member
  have hlimits : limits.AtMost wider := ⟨by decide, by decide, by decide, by decide⟩
  have hwider : (Query.ofRegex wider r).holds member = true := by cbv
  exact ⟨hlimits, hwider, Query.ofRegex_of_wider hlimits (by decide) (by decide) member hwider⟩

/-- Without room it is not so.  With room for two strings, the class of two characters behind `x` makes three
beginnings out of two, all are cut, and the trigram `bcd` is lost; where the class is given up at once, it is not. -/
theorem Query.ofRegex_wider_class_weaker :
    let limits : Limits := { maxSet := 2, maxClass := 1 }
    let wider : Limits := { maxSet := 2, maxClass := 2 }
    let r : Regex := .concat [.literal [97, 98], .alternation
      [.concat [.literal [99, 100], .repeated 0 none true (.charClass (.bytes [⟨0, 255⟩]))],
        .concat [.literal [120], .charClass (.chars [⟨101, 102⟩])]]]
    let member : Trigram → Bool := fun t => t = Trigram.ofBytes 97 98 99
    limits.AtMost wider ∧ r.hasProperClasses = true ∧ (Query.ofRegex wider r).holds member = true ∧
      (Query.ofRegex limits r).holds member = false := by
  intro limits wider r member
  exact ⟨⟨by decide, by decide, by decide, by decide⟩, by decide, by cbv, by cbv⟩

end TrigramGrep
