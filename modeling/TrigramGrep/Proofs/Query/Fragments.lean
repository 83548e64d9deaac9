import TrigramGrep.Proofs.Query.Soundness
import TrigramGrep.Proofs.Query.Strings

/-!
# A text in fragments

An expression without classes, repetitions and alternatives stands for a single text, however the text is cut into
literals, and however these are grouped and nested.  Its query asks for the trigrams of this text and for no others:
those that lie across a cut are not lost, and none comes from elsewhere.  Limits have to leave room for one string
in each set.

## Shape of the proof

While such an expression is analysed, every set has one string.  `Analysis.Spells` says how the analysis stands to
the text: it is the exact analysis of the text, or the text has three bytes at least, and the string on each side
has the outer two bytes of the text.  In both cases the verdict asks for the trigrams of the text.  A sequence keeps
this, because the trigrams across a cut lie within two bytes of it on both sides (`Trigram.mem_windows_append`), and
these bytes come together in the string at the front, in the one at the back, or in the one at the seam, depending
on which part is exact.
-/

namespace TrigramGrep

namespace Regex

/-- Whether the root of an expression is a text, a group, a condition on the position or a sequence. -/
def isFragment : Regex → Bool
  | .empty | .look _ | .literal _ | .capture .. | .concat _ => true
  | .charClass _ | .repeated .. | .alternation _ => false

/-- Whether an expression has nothing else in it. -/
def isFixed (r : Regex) : Bool :=
  r.all isFragment

mutual

/-- The bytes of the literals of an expression, in order. -/
def text : Regex → Bytes
  | .empty => []
  | .look _ => []
  | .literal bytes => bytes
  | .charClass _ => []
  | .capture _ _ body => text body
  | .repeated _ _ _ body => text body
  | .concat parts => textOf parts
  | .alternation parts => textOf parts

/-- The bytes of the literals of several expressions, in order. -/
def textOf : List Regex → Bytes
  | [] => []
  | part :: parts => text part ++ textOf parts

end

theorem singleton_mul_singleton (u v : Bytes) : ({u} * {v} : Language UInt8) = {u ++ v} := by
  rw [Language.mul_def]
  exact Set.image2_singleton

mutual

/-- An expression that has nothing else in it stands for one text. -/
theorem language_of_isFixed : (r : Regex) → r.isFixed = true → r.language = {r.text}
  | .empty, _ => rfl
  | .look _, _ => rfl
  | .literal _, _ => rfl
  | .capture _ _ body, h => language_of_isFixed body h
  | .concat parts, h => languageAll_of_isFixed parts h

/-- Several of them in sequence stand for their texts in a row. -/
theorem languageAll_of_isFixed :
    (parts : List Regex) → allOf isFragment parts = true → languageAll parts = {textOf parts}
  | [], _ => rfl
  | part :: parts, h => by
    obtain ⟨hpart, hparts⟩ := Bool.and_eq_true_iff.mp h
    rw [languageAll, language_of_isFixed part hpart, languageAll_of_isFixed parts hparts, singleton_mul_singleton,
      textOf]

end

end Regex

/-! ## Sets of one string -/

namespace StringSet

variable {side : Side} {s : Bytes}

theorem cross_singleton (side : Side) (u v : Bytes) : cross side [u] [v] = [u ++ v] :=
  clean_singleton side (u ++ v)

theorem minLength_singleton (s : Bytes) : minLength [s] = s.length := rfl

/-- One string has room, so it is cut to two bytes and no further. -/
theorem prune_reduce_singleton {limit : Nat} (hset : 1 ≤ limit) (side : Side) (s : Bytes) :
    (reduce side limit [s]).prune side = [side.keep 2 s] := by
  have htwo : shorten side 2 [s] = [side.keep 2 s] := clean_singleton side (side.keep 2 s)
  rw [reduce, htwo, List.length_singleton, if_pos hset]
  rfl

theorem holds_condition_singleton {member : Trigram → Bool} :
    (condition [s]).holds member = true ↔ ∀ t ∈ Trigram.windows s, member t = true := by
  simp [holds_condition_iff]

end StringSet

/-! ## An analysis that spells a text -/

namespace Analysis

variable {a x y : Analysis} {u v w : Bytes} {limits : Limits}

/-- The analysis of an expression that stands for one text: it is exact, or the text is long enough for a trigram.
On each side one string is known, which stands there and has the outer two bytes of the text.  The verdict asks for
the trigrams of the text. -/
structure Spells (a : Analysis) (w : Bytes) : Prop where
  eq_of_exact : ∀ set, a.exact = some set → a = ofExact [w]
  long : a.exact = none → 3 ≤ w.length
  canBeEmpty : a.exact = none → a.canBeEmpty = false
  strings : ∀ side, ∃ s, a.strings side = [s] ∧ side.Bounds s w ∧ side.Bounds (side.keep 2 w) s
  verdict : ∀ member, a.verdict member = true ↔ ∀ t ∈ Trigram.windows w, member t = true

theorem spells_ofExact (w : Bytes) : (ofExact [w]).Spells w where
  eq_of_exact _ _ := rfl
  long := nofun
  canBeEmpty := nofun
  strings side := ⟨w, strings_of_some rfl side, .refl side w, side.bounds_keep 2 w⟩
  verdict member := by
    rw [verdict_of_some member rfl, Bool.and_eq_true, StringSet.holds_condition_singleton]
    exact and_iff_right (Query.holds_always member)

namespace Spells

theorem exact_eq (h : a.Spells w) {set : StringSet} (he : a.exact = some set) : set = [w] := by
  rw [h.eq_of_exact set he] at he
  exact (Option.some.inj he).symm

theorem heads (h : a.Spells w) (hn : a.exact = none) : ∃ s, a.heads = [s] ∧ s <+: w ∧ w.take 2 <+: s := by
  obtain ⟨s, hs, hbounds⟩ := h.strings .front
  exact ⟨s, (strings_front hn).symm.trans hs, hbounds⟩

theorem tails (h : a.Spells w) (hn : a.exact = none) :
    ∃ s, a.tails = [s] ∧ s <:+ w ∧ w.drop (w.length - 2) <:+ s := by
  obtain ⟨s, hs, hbounds, hkeep⟩ := h.strings .back
  exact ⟨s, (strings_back hn).symm.trans hs, Side.bounds_back.mp hbounds, Side.bounds_back.mp hkeep⟩

/-- When it has been made to fit, an analysis that is not exact has all it says in its condition. -/
theorem holds_condition (h : a.Spells w) (hcompact : a.Compact) (hn : a.exact = none) (member : Trigram → Bool) :
    a.condition.holds member = true ↔ ∀ t ∈ Trigram.windows w, member t = true := by
  rw [← h.verdict member, verdict_of_compact member hcompact, withExact, hn]

/-! ### Making it fit -/

/-- On each side one string is left, its outer two bytes. -/
theorem strings_simplify (h : a.Spells w) (hset : 1 ≤ limits.maxSet) {last : Bool}
    (hn : (a.simplify limits last).exact = none) (side : Side) :
    ∃ s, a.strings side = [s] ∧ (a.simplify limits last).strings side = [side.keep 2 s] := by
  obtain ⟨s, hs, -⟩ := h.strings side
  refine ⟨s, hs, ?_⟩
  rcases simplify_cases a limits last with ⟨set, -, -, heq⟩ | ⟨set, he, heq⟩ | ⟨hnone, heq⟩
  · rw [heq] at hn
    cases hn
  · obtain rfl := h.exact_eq he
    have ha := h.eq_of_exact _ he
    obtain rfl : w = s := by
      rw [strings_of_some he] at hs
      exact (List.cons.inj hs).1
    have hcut : side.keep 2 (side.keep 2 w) = side.keep 2 w :=
      Side.keep_of_length_le (StringSet.length_keep_le side 2 w)
    rw [heq, strings_simplifyBoth rfl, StringSet.clean_singleton, strings_giveUp (by rw [ha]; rfl) (by rw [ha]; rfl),
      List.map_singleton, StringSet.clean_singleton, StringSet.prune_reduce_singleton hset, hcut]
  · rw [heq, strings_simplifyBoth hnone, hs, StringSet.clean_singleton, StringSet.prune_reduce_singleton hset]

/-- One string is no reason to give up an exact set, unless it is long. -/
theorem eq_or_long_of_simplify (h : a.Spells w) (hexact : 1 ≤ limits.maxExact) (last : Bool) :
    a.simplify limits last = ofExact [w] ∨ (a.simplify limits last).exact = none ∧ 3 ≤ w.length := by
  cases he : a.exact with
  | none =>
    refine .inr ⟨?_, h.long he⟩
    rw [simplify_of_none he]
    exact he
  | some set =>
    obtain rfl := h.exact_eq he
    rw [Analysis.simplify, he, Option.map_some, StringSet.clean_singleton]
    dsimp only
    split
    · next hgives =>
      refine .inr ⟨rfl, ?_⟩
      simp only [givesUp, List.length_singleton, Bool.or_eq_true, Bool.and_eq_true, decide_eq_true_eq] at hgives
      rw [StringSet.minLength_singleton] at hgives
      rcases hgives with (hmany | ⟨-, hlong⟩) | hlong <;> omega
    · left
      rw [h.eq_of_exact _ he]
      rfl

theorem simplify (h : a.Spells w) (hexact : 1 ≤ limits.maxExact) (hset : 1 ≤ limits.maxSet) (last : Bool) :
    (a.simplify limits last).Spells w := by
  rcases h.eq_or_long_of_simplify hexact last with heq | ⟨hn, hlong⟩
  · rw [heq]
    exact spells_ofExact w
  · refine ⟨fun set he => ?_, fun _ => hlong, fun _ => ?_, fun side => ?_, fun member => ?_⟩
    · cases hn.symm.trans he
    · rw [canBeEmpty_simplify]
      cases he : a.exact with
      | none => exact h.canBeEmpty he
      | some set =>
        rw [h.eq_of_exact set he]
        cases w with
        | nil => cases hlong
        | cons => rfl
    · obtain ⟨s, hs, hcut⟩ := h.strings_simplify hset hn side
      obtain ⟨s', hs', hbounds, hkeep⟩ := h.strings side
      obtain rfl : s = s' := (List.cons.inj (hs.symm.trans hs')).1
      exact ⟨side.keep 2 s, hcut, (side.bounds_keep 2 s).trans hbounds, hkeep.keep (StringSet.length_keep_le side 2 w)⟩
    · rw [verdict_simplify]
      exact h.verdict member

/-! ### Sequences -/

section Sequence

variable (hx : x.Spells u) (hy : y.Spells v)

include hx hy

/-- The string at the front of a sequence.  Behind an exact left part it reaches two bytes beyond the cut. -/
theorem concatHeads (hn : x.exact = none ∨ y.exact = none) :
    ∃ s, concatHeads x y = [s] ∧ s <+: u ++ v ∧ (u ++ v).take 2 <+: s ∧
      (x.exact ≠ none → u ++ v.take 2 <+: s) := by
  rcases hxs : x.exact with _ | xs
  · obtain ⟨s, hs, hprefix, hkeep⟩ := hx.heads hxs
    have hlong := hx.long hxs
    refine ⟨s, ?_, hprefix.trans (List.prefix_append u v), ?_, fun h => absurd rfl h⟩
    · simp [Analysis.concatHeads, hxs, hx.canBeEmpty hxs, hs]
    · rwa [List.take_append_of_le_length (by omega)]
  · obtain rfl := hx.exact_eq hxs
    obtain ⟨s, hs, hprefix, hkeep⟩ := hy.heads (hn.resolve_left (by simp [hxs]))
    have hwhole : u ++ s <+: u ++ v := (List.prefix_append_right_inj u).mpr hprefix
    have hcut : u ++ v.take 2 <+: u ++ s := (List.prefix_append_right_inj u).mpr hkeep
    refine ⟨u ++ s, ?_, hwhole, ?_, fun _ => hcut⟩
    · rw [Analysis.concatHeads, hxs, hs]
      exact StringSet.cross_singleton .front u s
    · apply List.prefix_of_prefix_length_le (List.take_prefix 2 _) hwhole
      have hlength := hcut.length_le
      simp only [List.length_append, List.length_take] at hlength ⊢
      omega

/-- The string at its back.  In front of an exact right part it reaches two bytes beyond the cut. -/
theorem concatTails (hn : x.exact = none ∨ y.exact = none) :
    ∃ s, concatTails x y = [s] ∧ s <:+ u ++ v ∧ (u ++ v).drop ((u ++ v).length - 2) <:+ s ∧
      (y.exact ≠ none → u.drop (u.length - 2) ++ v <:+ s) := by
  rcases hys : y.exact with _ | ys
  · obtain ⟨s, hs, hsuffix, hkeep⟩ := hy.tails hys
    have hlong := hy.long hys
    have hcut : (u ++ v).drop ((u ++ v).length - 2) = v.drop (v.length - 2) := by
      rw [List.length_append, Nat.add_sub_assoc (by omega), List.drop_length_add_append]
    refine ⟨s, ?_, hsuffix.trans (List.suffix_append u v), ?_, fun h => absurd rfl h⟩
    · simp [Analysis.concatTails, hys, hy.canBeEmpty hys, hs]
    · rwa [hcut]
  · obtain rfl := hy.exact_eq hys
    obtain ⟨s, hs, hsuffix, hkeep⟩ := hx.tails (hn.resolve_right (by simp [hys]))
    have hwhole : s ++ v <:+ u ++ v := by
      obtain ⟨before, rfl⟩ := hsuffix
      exact ⟨before, (List.append_assoc before s v).symm⟩
    have hcut : u.drop (u.length - 2) ++ v <:+ s ++ v := by
      obtain ⟨before, rfl⟩ := hkeep
      exact ⟨before, (List.append_assoc before _ v).symm⟩
    refine ⟨s ++ v, ?_, hwhole, ?_, fun _ => hcut⟩
    · rw [Analysis.concatTails, hys, hs]
      exact StringSet.cross_singleton .back s v
    · apply List.suffix_of_suffix_length_le (List.drop_suffix _ _) hwhole
      have hlength := hcut.length_le
      simp only [List.length_append, List.length_drop] at hlength ⊢
      omega

/-- Between two parts that are not exact, the string at the seam has two bytes of each of them. -/
theorem seam (hset : 1 ≤ limits.maxSet) (hxn : x.exact = none) (hyn : y.exact = none) :
    ∃ s, seam limits x y = StringSet.condition [s] ∧ s <:+: u ++ v ∧
      u.drop (u.length - 2) ++ v.take 2 <:+: s := by
  obtain ⟨s, hs, ⟨before, hu⟩, ⟨more, hsuffix⟩⟩ := hx.tails hxn
  obtain ⟨p, hp, ⟨after, hv⟩, ⟨rest, hprefix⟩⟩ := hy.heads hyn
  have hlongs : 3 ≤ s.length + p.length := by
    have hulong := hx.long hxn
    have hvlong := hy.long hyn
    have hslength := congrArg List.length hsuffix
    have hplength := congrArg List.length hprefix
    simp only [List.length_append, List.length_drop, List.length_take] at hslength hplength
    omega
  refine ⟨s ++ p, ?_, ⟨before, after, ?_⟩, ⟨more, rest, ?_⟩⟩
  · simp [Analysis.seam, hxn, hyn, hs, hp, hset, StringSet.minLength_singleton, hlongs, StringSet.cross_singleton]
  · rw [← hu, ← hv]
    simp only [List.append_assoc]
  · rw [← hsuffix, ← hprefix]
    simp only [List.append_assoc]

/-- What meets the query of a sequence has the trigrams of the whole text: those of each part, and those across the
cut. -/
theorem windows_of_sequence (hxc : x.Compact) (hyc : y.Compact) (hset : 1 ≤ limits.maxSet)
    (hn : x.exact = none ∨ y.exact = none) {member : Trigram → Bool}
    (h : (sequence limits x y).verdict member = true) : ∀ t ∈ Trigram.windows (u ++ v), member t = true := by
  obtain ⟨hnone, hfront, hback⟩ := sequence_of_none limits hn
  obtain ⟨p, hp, -, -, hpcut⟩ := hx.concatHeads hy hn
  obtain ⟨s, hs, -, -, hscut⟩ := hx.concatTails hy hn
  rw [verdict_of_none member hnone, ← strings_front hnone, ← strings_back hnone, hfront, hback, hp, hs,
    condition_sequence] at h
  simp only [Query.holds_conj, Bool.and_eq_true, StringSet.holds_condition_singleton] at h
  obtain ⟨⟨⟨hxholds, hyholds⟩, hseam⟩, hpall, hsall⟩ := h
  have hpart {part whole : Bytes} (hall : ∀ t ∈ Trigram.windows whole, member t = true) (hpart : part <:+: whole) :
      ∀ t ∈ Trigram.windows part, member t = true :=
    fun t ht => hall t (Trigram.mem_windows_of_infix hpart ht)
  obtain ⟨hu, hv, hcut⟩ : (∀ t ∈ Trigram.windows u, member t = true) ∧ (∀ t ∈ Trigram.windows v, member t = true) ∧
      ∀ t ∈ Trigram.windows (u.drop (u.length - 2) ++ v.take 2), member t = true := by
    rcases hxs : x.exact with _ | xs
    · have hu := (hx.holds_condition hxc hxs member).mp hxholds
      rcases hys : y.exact with _ | ys
      · obtain ⟨m, hm, -, hmcut⟩ := hx.seam hy hset hxs hys
        rw [hm, StringSet.holds_condition_singleton] at hseam
        exact ⟨hu, (hy.holds_condition hyc hys member).mp hyholds, hpart hseam hmcut⟩
      · have hall := hpart hsall (hscut (by simp [hys])).isInfix
        exact ⟨hu, hpart hall (List.suffix_append _ v).isInfix,
          hpart hall ((List.prefix_append_right_inj _).mpr (List.take_prefix 2 v)).isInfix⟩
    · have hall := hpart hpall (hpcut (by simp [hxs])).isInfix
      have hyn : y.exact = none := hn.resolve_left (by simp [hxs])
      exact ⟨hpart hall (List.prefix_append u _).isInfix, (hy.holds_condition hyc hyn member).mp hyholds,
        hpart hall ((List.suffix_append_inj_of_length_eq rfl).mpr ⟨List.drop_suffix _ u, rfl⟩).isInfix⟩
  intro t ht
  rcases (Trigram.mem_windows_append u v).mp ht with ht | ht | ht
  · exact hu t ht
  · exact hv t ht
  · exact hcut t ht

/-- What has them meets the query: every string that the query is made from is part of the text. -/
theorem sequence_of_windows (hset : 1 ≤ limits.maxSet) (hn : x.exact = none ∨ y.exact = none) {member : Trigram → Bool}
    (h : ∀ t ∈ Trigram.windows (u ++ v), member t = true) : (sequence limits x y).verdict member = true := by
  obtain ⟨hnone, hfront, hback⟩ := sequence_of_none limits hn
  obtain ⟨p, hp, hpwhole, -⟩ := hx.concatHeads hy hn
  obtain ⟨s, hs, hswhole, -⟩ := hx.concatTails hy hn
  have hpart {part : Bytes} (hpart : part <:+: u ++ v) : ∀ t ∈ Trigram.windows part, member t = true :=
    fun t ht => h t (Trigram.mem_windows_of_infix hpart ht)
  have hxverdict := (hx.verdict member).mpr (hpart (List.prefix_append u v).isInfix)
  have hyverdict := (hy.verdict member).mpr (hpart (List.suffix_append u v).isInfix)
  have hseam : (Analysis.seam limits x y).holds member = true := by
    by_cases hboth : x.exact = none ∧ y.exact = none
    · obtain ⟨m, hm, hmwhole, -⟩ := hx.seam hy hset hboth.1 hboth.2
      rw [hm]
      exact StringSet.holds_condition_singleton.mpr (hpart hmwhole)
    · rw [Analysis.seam, if_neg]
      · exact Query.holds_always member
      · simp only [Bool.and_eq_true, Option.isNone_iff_eq_none]
        exact fun hall => hboth hall.1.1.1
  rw [verdict_of_none member hnone, ← strings_front hnone, ← strings_back hnone, hfront, hback, hp, hs,
    condition_sequence]
  simp only [Query.holds_conj, Bool.and_eq_true, StringSet.holds_condition_singleton]
  exact ⟨⟨⟨(Bool.and_eq_true_iff.mp hxverdict).1, (Bool.and_eq_true_iff.mp hyverdict).1⟩, hseam⟩,
    hpart hpwhole.isInfix, hpart hswhole.isInfix⟩

/-- The analyses of two texts in sequence spell both in a row. -/
theorem sequence (hxc : x.Compact) (hyc : y.Compact) (hset : 1 ≤ limits.maxSet) :
    (sequence limits x y).Spells (u ++ v) := by
  by_cases hn : x.exact = none ∨ y.exact = none
  · obtain ⟨hnone, hfront, hback⟩ := sequence_of_none limits hn
    refine ⟨fun set he => ?_, fun _ => ?_, fun _ => ?_, fun side => ?_, fun member =>
      ⟨hx.windows_of_sequence hy hxc hyc hset hn, hx.sequence_of_windows hy hset hn⟩⟩
    · cases hnone.symm.trans he
    · rw [List.length_append]
      rcases hn with hn | hn
      · have := hx.long hn
        omega
      · have := hy.long hn
        omega
    · rw [canBeEmpty_sequence]
      rcases hn with hn | hn
      · rw [hx.canBeEmpty hn, Bool.false_and]
      · rw [hy.canBeEmpty hn, Bool.and_false]
    · cases side with
      | front =>
        obtain ⟨s, hs, hwhole, hkeep, -⟩ := hx.concatHeads hy hn
        exact ⟨s, hfront.trans hs, hwhole, hkeep⟩
      | back =>
        obtain ⟨s, hs, hwhole, hkeep, -⟩ := hx.concatTails hy hn
        exact ⟨s, hback.trans hs, Side.bounds_back.mpr hwhole, Side.bounds_back.mpr hkeep⟩
  · obtain ⟨hxs, hys⟩ := not_or.mp hn
    obtain ⟨xs, hxs⟩ := Option.ne_none_iff_exists'.mp hxs
    obtain ⟨ys, hys⟩ := Option.ne_none_iff_exists'.mp hys
    rw [hx.eq_of_exact xs hxs, hy.eq_of_exact ys hys]
    have heq : Analysis.sequence limits (ofExact [u]) (ofExact [v]) = ofExact [u ++ v] := by
      cases u <;> cases v <;> simp [Analysis.sequence, ofExact, StringSet.cross_singleton, Analysis.seam]
    rw [heq]
    exact spells_ofExact (u ++ v)

end Sequence

end Spells

/-! ## Expressions -/

section Expressions

variable (hexact : 1 ≤ limits.maxExact) (hset : 1 ≤ limits.maxSet)

include hexact hset

theorem Spells.concat (hx : x.Spells u) (hy : y.Spells v) (hxc : x.Compact) (hyc : y.Compact) :
    (concat limits x y).Spells (u ++ v) := by
  rw [concat_eq_simplify]
  exact (hx.sequence hy hxc hyc hset).simplify hexact hset false

mutual

/-- The analysis of an expression that stands for one text spells this text. -/
theorem spells_ofRegex : (r : Regex) → r.isFixed = true → (ofRegex limits r).Spells r.text
  | .empty, _ => (spells_ofExact []).simplify hexact hset false
  | .look _, _ => (spells_ofExact []).simplify hexact hset false
  | .literal bytes, _ => (spells_ofExact bytes).simplify hexact hset false
  | .capture _ _ body, h => (spells_ofRegex body h).simplify hexact hset false
  | .concat [], _ => (spells_ofExact []).simplify hexact hset false
  | .concat (part :: parts), h => by
    obtain ⟨hpart, hparts⟩ := Bool.and_eq_true_iff.mp h
    exact (spells_foldl parts hparts (spells_ofRegex part hpart) (compact_ofRegex limits part)).simplify
      hexact hset false

/-- After an analysis that spells a text, the analyses of further parts go on with their texts. -/
theorem spells_foldl : (parts : List Regex) → Regex.allOf Regex.isFragment parts = true →
    ∀ {a : Analysis} {u : Bytes}, a.Spells u → a.Compact →
      ((ofParts limits parts).foldl (concat limits) a).Spells (u ++ Regex.textOf parts)
  | [], _, a, u, ha, _ => by
    rw [Regex.textOf, List.append_nil]
    exact ha
  | part :: parts, h, a, u, ha, hac => by
    obtain ⟨hpart, hparts⟩ := Bool.and_eq_true_iff.mp h
    rw [Regex.textOf, ← List.append_assoc]
    exact spells_foldl parts hparts
      (ha.concat hexact hset (spells_ofRegex part hpart) hac (compact_ofRegex limits part))
      (compact_concat limits a (ofRegex limits part))

end

end Expressions

end Analysis

/-! ## Queries -/

/-- **No trigram is lost where a text is cut.**  An expression of literals, groups, conditions on the position and
sequences stands for one text.  If limits have room for one string, its query is met by just those sets of trigrams
that have all trigrams of this text: the conjunction of these says the same.  A text too short for a trigram gives no
condition. -/
theorem Query.ofRegex_of_isFixed {limits : Limits} (hexact : 1 ≤ limits.maxExact) (hset : 1 ≤ limits.maxSet) {r : Regex}
    (hfixed : r.isFixed = true) :
    r.language = {r.text} ∧
      (∀ member, (Query.ofRegex limits r).holds member = true ↔ ∀ t ∈ Trigram.windows r.text, member t = true) ∧
      (∀ member, (Query.ofRegex limits r).holds member = (Query.hasAll (Trigram.distinct r.text)).holds member) ∧
      (r.text.length < 3 → Query.ofRegex limits r = .always) := by
  have hspells := Analysis.spells_ofRegex hexact hset r hfixed
  have hholds (member : Trigram → Bool) :
      (Query.ofRegex limits r).holds member = true ↔ ∀ t ∈ Trigram.windows r.text, member t = true := by
    rw [Analysis.holds_ofRegex]
    exact hspells.verdict member
  refine ⟨Regex.language_of_isFixed r hfixed, hholds, fun member => ?_, fun hshort => ?_⟩
  · rw [Bool.eq_iff_iff, hholds, Query.holds_hasAll, List.all_eq_true]
    simp only [Trigram.mem_distinct]
  · -- so short a text is never given up
    rcases hspells.eq_or_long_of_simplify hexact true with heq | ⟨-, hlong⟩
    · have hcondition : (Analysis.ofExact [r.text]).withExact.condition =
          Query.conj .always (StringSet.condition [r.text]) := rfl
      rw [Query.ofRegex, heq, hcondition, Query.always_conj]
      exact StringSet.condition_of_short List.mem_cons_self hshort
    · omega

/-- Five bytes in three pieces, one of them in a group, behind an anchor.  The query asks for three trigrams, and
each of them lies across a cut. -/
theorem Query.ofRegex_of_isFixed_pieces :
    let limits : Limits := { maxExact := 1, maxSet := 1 }
    let r : Regex := .concat [.look (.lineStart .whole), .literal [97],
      .capture 1 none (.concat [.literal [98, 99], .empty]), .literal [100, 101]]
    1 ≤ limits.maxExact ∧ 1 ≤ limits.maxSet ∧ r.isFixed = true ∧ r.language = {[97, 98, 99, 100, 101]} ∧
      ∀ member, (Query.ofRegex limits r).holds member =
        (Query.hasAll (Trigram.distinct [97, 98, 99, 100, 101])).holds member := by
  intro limits r
  have hexact : 1 ≤ limits.maxExact := Nat.le_refl 1
  have hset : 1 ≤ limits.maxSet := Nat.le_refl 1
  have hfixed : r.isFixed = true := by decide
  obtain ⟨hlanguage, -, hholds, -⟩ := Query.ofRegex_of_isFixed hexact hset hfixed
  exact ⟨hexact, hset, hfixed, hlanguage, hholds⟩

end TrigramGrep
