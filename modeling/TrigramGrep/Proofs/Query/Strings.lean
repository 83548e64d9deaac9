import TrigramGrep.Proofs.Query.Composition

/-!
# What an analysis begins and ends with

For each side an analysis has a set of strings (`Analysis.strings`): the set of all matches as long as it is known,
and the beginnings or the endings afterwards.  This module says what becomes of these sets.

* To make an analysis fit leaves something at the side of every text where there was something before.  Its strings
  are those of before, or their outer two bytes, as long as the sets are not cut any further; and they are not if the
  limit leaves room for all strings of at most two bytes, of which there are `1 + 256 + 256 ^ 2`.
* A sequence begins with what its left part begins with, or with a string of an exact left part and one of the right
  part behind it.  It ends likewise.
* Alternatives have the strings of both, and a repetition has those of its body.
-/

namespace TrigramGrep

/-! ## Strings of at most two bytes -/

namespace StringSet

variable {side : Side} {set other : StringSet} {s text : Bytes} {limit : Nat}

/-- All bytes. -/
def bytes : List UInt8 := (List.range 256).map UInt8.ofNat

theorem length_bytes : bytes.length = 256 := by
  rw [bytes, List.length_map, List.length_range]

theorem mem_bytes (a : UInt8) : a ∈ bytes :=
  List.mem_map.mpr ⟨a.toNat, List.mem_range.mpr a.toNat_lt, UInt8.ofNat_toNat⟩

/-- All strings of at most two bytes. -/
def shortStrings : List Bytes :=
  [[]] ++ bytes.map (fun a => [a]) ++ bytes.flatMap fun a => bytes.map fun b => [a, b]

theorem length_shortStrings : shortStrings.length = 1 + 256 + 256 ^ 2 := by
  have hpairs : (bytes.flatMap fun a => bytes.map fun b => [a, b]).length = 256 * 256 := by
    simp only [List.length_flatMap, List.length_map, List.map_const', List.sum_replicate_nat, length_bytes]
  rw [shortStrings, List.length_append, List.length_append, List.length_map, hpairs, length_bytes]
  rfl

theorem mem_shortStrings (h : s.length ≤ 2) : s ∈ shortStrings := by
  match s, h with
  | [], _ => exact List.mem_append_left _ List.mem_cons_self
  | [a], _ => exact List.mem_append_left _ (List.mem_append_right _ (List.mem_map_of_mem (mem_bytes a)))
  | [a, b], _ =>
    exact List.mem_append_right _
      (List.mem_flatMap.mpr ⟨a, mem_bytes a, List.mem_map_of_mem (mem_bytes b)⟩)

/-- However large a set is, only so many strings of it are left when they are cut to two bytes. -/
theorem length_shorten_two_le (side : Side) (set : StringSet) :
    (set.shorten side 2).length ≤ 1 + 256 + 256 ^ 2 := by
  have hsubset : set.shorten side 2 ⊆ shortStrings := fun s hs => mem_shortStrings (length_le_of_mem_shorten hs)
  rw [← length_shortStrings]
  exact ((nodup_clean side _).subperm hsubset).length_le

/-- With room for all of them, none is cut any further. -/
theorem reduce_eq_shorten (hroom : 1 + 256 + 256 ^ 2 ≤ limit) : set.reduce side limit = set.shorten side 2 :=
  if_pos (Nat.le_trans (length_shorten_two_le side set) hroom)

theorem length_pruneAfter_le (side : Side) (kept : Option Bytes) (set : StringSet) :
    (pruneAfter side kept set).length ≤ set.length := by
  induction set generalizing kept with
  | nil => exact Nat.le_refl 0
  | cons s set ih =>
    rw [pruneAfter]
    split
    · exact Nat.le_succ_of_le (ih kept)
    · exact Nat.succ_le_succ (ih (some s))

/-- A set that was made to fit fits. -/
theorem length_prune_reduce_le (hroom : 1 + 256 + 256 ^ 2 ≤ limit) :
    ((set.reduce side limit).prune side).length ≤ limit := by
  rw [reduce_eq_shorten hroom]
  exact Nat.le_trans (length_pruneAfter_le side none _) (Nat.le_trans (length_shorten_two_le side set) hroom)

/-- With room for all strings, what is left of a set are the outer two bytes of its strings. -/
theorem exists_of_mem_prune_reduce (hroom : 1 + 256 + 256 ^ 2 ≤ limit)
    (hs : s ∈ ((set.clean side).reduce side limit).prune side) : ∃ t ∈ set, side.keep 2 t = s := by
  have hs := mem_of_mem_pruneAfter hs
  rw [reduce_eq_shorten hroom, shorten, mem_clean] at hs
  obtain ⟨t, ht, rfl⟩ := List.mem_map.mp hs
  exact ⟨t, mem_clean.mp ht, rfl⟩

/-- The shortest string of a set is no longer than that of a set that it covers. -/
theorem minLength_le_of_covers (hother : other ≠ []) (h : ∀ s ∈ other, set.Covers side s) :
    set.minLength ≤ other.minLength := by
  obtain ⟨s, hs, hlength⟩ := exists_length_eq_minLength hother
  obtain ⟨t, ht, hts⟩ := h s hs
  rw [← hlength]
  exact Nat.le_trans (minLength_le ht) hts.isPart.length_le

/-- A text with all its trigrams in another one meets the condition of the sets that cover it. -/
theorem holds_condition_of_covers {member : Trigram → Bool} (h : set.Covers side s)
    (hall : ∀ t ∈ Trigram.windows s, member t = true) : set.condition.holds member = true := by
  obtain ⟨p, hp, hps⟩ := h
  exact holds_condition_of_isInfix hp hps.isPart hall

end StringSet

namespace Analysis

variable {a x y : Analysis} {limits : Limits}

/-! ## The strings of an analysis -/

/-- The strings that a match begins or ends with. -/
def strings (side : Side) (a : Analysis) : StringSet :=
  match side with
  | .front => a.beginnings
  | .back => a.endings

theorem strings_of_some {set : StringSet} (he : a.exact = some set) (side : Side) : a.strings side = set := by
  cases side with
  | front => rw [strings, beginnings, he, Option.getD_some]
  | back => rw [strings, endings, he, Option.getD_some]

theorem strings_front (hn : a.exact = none) : a.strings .front = a.heads := by
  rw [strings, beginnings, hn, Option.getD_none]

theorem strings_back (hn : a.exact = none) : a.strings .back = a.tails := by
  rw [strings, endings, hn, Option.getD_none]

theorem strings_simplifyBoth (hn : a.exact = none) (limits : Limits) (side : Side) :
    (simplifyTails limits (simplifyHeads limits a)).strings side =
      (((a.strings side).clean side).reduce side limits.maxSet).prune side := by
  have hn' : (simplifyTails limits (simplifyHeads limits a)).exact = none := hn
  cases side with
  | front =>
    rw [strings_front hn', strings_front hn]
    rfl
  | back =>
    rw [strings_back hn', strings_back hn]
    rfl

/-- Of a set that is given up the outer two bytes of its strings are left. -/
theorem strings_giveUp {set : StringSet} (hheads : a.heads = []) (htails : a.tails = []) (side : Side) :
    (a.giveUp set).strings side = set.map (side.keep 2) := by
  cases side with
  | front =>
    show (a.giveUp set).heads = _
    rw [heads_giveUp, hheads, List.nil_append]
  | back =>
    show (a.giveUp set).tails = _
    rw [tails_giveUp, htails, List.nil_append]

theorem simplify_of_none (hn : a.exact = none) (limits : Limits) (last : Bool) :
    a.simplify limits last = simplifyTails limits (simplifyHeads limits a) := by
  rw [simplify, hn]
  rfl

/-- To make an analysis fit is one of three things: the exact set is kept, or it is given up, or there is none any
more. -/
theorem simplify_cases (a : Analysis) (limits : Limits) (last : Bool) :
    (∃ set, a.exact = some set ∧ givesUp limits last (set.clean .front) = false ∧
        a.simplify limits last = { a with exact := some (set.clean .front) }) ∨
      (∃ set, a.exact = some set ∧ a.simplify limits last =
        simplifyTails limits (simplifyHeads limits (a.giveUp (set.clean .front)))) ∨
      a.exact = none ∧ a.simplify limits last = simplifyTails limits (simplifyHeads limits a) := by
  cases he : a.exact with
  | none => exact .inr (.inr ⟨rfl, simplify_of_none he limits last⟩)
  | some set =>
    have hsimplify : a.simplify limits last =
        if givesUp limits last (set.clean .front) then
          simplifyTails limits (simplifyHeads limits (a.giveUp (set.clean .front)))
        else { a with exact := some (set.clean .front) } := by
      rw [simplify, he]; rfl
    cases hgives : givesUp limits last (set.clean .front) with
    | false => exact .inl ⟨set, rfl, hgives, by rw [hsimplify, hgives]; rfl⟩
    | true => exact .inr (.inl ⟨set, rfl, by rw [hsimplify, hgives]; rfl⟩)

theorem canBeEmpty_simplify (a : Analysis) (limits : Limits) (last : Bool) :
    (a.simplify limits last).canBeEmpty = a.canBeEmpty := by
  rcases simplify_cases a limits last with ⟨set, -, -, heq⟩ | ⟨set, -, heq⟩ | ⟨-, heq⟩ <;> rw [heq] <;> rfl

theorem exists_exact_of_simplify {last : Bool} {set : StringSet} (he : (a.simplify limits last).exact = some set) :
    ∃ exact, a.exact = some exact := by
  apply Option.ne_none_iff_exists'.mp
  intro hn
  rw [simplify, hn] at he
  cases hn.symm.trans he

/-- What a text begins or ends with it still begins or ends with when the analysis has been made to fit. -/
theorem covers_simplify (h : a.Coherent) (limits : Limits) (last : Bool) {side : Side} {text : Bytes}
    (hcovers : (a.strings side).Covers side text) : ((a.simplify limits last).strings side).Covers side text := by
  rcases simplify_cases a limits last with ⟨set, he, -, heq⟩ | ⟨set, he, heq⟩ | ⟨hn, heq⟩
  · rw [strings_of_some he] at hcovers
    rw [heq, strings_of_some rfl]
    exact hcovers.mono fun s hs => StringSet.mem_clean.mpr hs
  · rw [strings_of_some he] at hcovers
    rw [heq, strings_simplifyBoth rfl, strings_giveUp (h.heads_of_exact set he) (h.tails_of_exact set he)]
    refine ((StringSet.Covers.of_forall_mem hcovers fun s hs => ?_).clean.reduce _).prune
    exact ⟨side.keep 2 s, List.mem_map_of_mem (StringSet.mem_clean.mpr hs), side.bounds_keep 2 s⟩
  · rw [heq, strings_simplifyBoth hn]
    exact (hcovers.clean.reduce _).prune

/-- Given room for all short strings, the strings of an analysis that was made to fit are those of before, or the
outer two bytes of them. -/
theorem exists_of_mem_simplify (h : a.Coherent) (hroom : 1 + 256 + 256 ^ 2 ≤ limits.maxSet) {last : Bool}
    {side : Side} {s : Bytes} (hs : s ∈ (a.simplify limits last).strings side) :
    ∃ t ∈ a.strings side, s = t ∨ s = side.keep 2 t := by
  rcases simplify_cases a limits last with ⟨set, he, -, heq⟩ | ⟨set, he, heq⟩ | ⟨hn, heq⟩
  · rw [heq, strings_of_some rfl, StringSet.mem_clean] at hs
    rw [strings_of_some he]
    exact ⟨s, hs, .inl rfl⟩
  · rw [heq, strings_simplifyBoth rfl, strings_giveUp (h.heads_of_exact set he) (h.tails_of_exact set he)] at hs
    obtain ⟨cut, hcut, rfl⟩ := StringSet.exists_of_mem_prune_reduce hroom hs
    obtain ⟨t, ht, rfl⟩ := List.mem_map.mp hcut
    rw [strings_of_some he]
    refine ⟨t, StringSet.mem_clean.mp ht, .inr ?_⟩
    exact Side.keep_of_length_le (StringSet.length_keep_le side 2 t)
  · rw [heq, strings_simplifyBoth hn] at hs
    obtain ⟨t, ht, rfl⟩ := StringSet.exists_of_mem_prune_reduce hroom hs
    exact ⟨t, ht, .inr rfl⟩

/-- And if it is not exact, its sets fit. -/
theorem length_strings_simplify_le (hroom : 1 + 256 + 256 ^ 2 ≤ limits.maxSet) {last : Bool}
    (hn : (a.simplify limits last).exact = none) (side : Side) :
    ((a.simplify limits last).strings side).length ≤ limits.maxSet := by
  rcases simplify_cases a limits last with ⟨set, he, -, heq⟩ | ⟨set, he, heq⟩ | ⟨hn, heq⟩
  · rw [heq] at hn
    cases hn
  · rw [heq, strings_simplifyBoth rfl]
    exact StringSet.length_prune_reduce_le hroom
  · rw [heq, strings_simplifyBoth hn]
    exact StringSet.length_prune_reduce_le hroom

/-- In an analysis that was made to fit and is not exact, a text that a string stands at the side of may be cut to
two bytes. -/
theorem Compact.covers_keep (h : a.Compact) (hn : a.exact = none) {side : Side} {text : Bytes}
    (hcovers : (a.strings side).Covers side text) : (a.strings side).Covers side (side.keep 2 text) := by
  obtain ⟨s, hs, hst⟩ := hcovers
  refine ⟨s, hs, hst.keep ?_⟩
  cases side with
  | front =>
    rw [strings_front hn] at hs
    exact Nat.le_of_lt_succ (h.heads hn s hs)
  | back =>
    rw [strings_back hn] at hs
    exact Nat.le_of_lt_succ (h.tails hn s hs)

/-- On each side, what is said of a text is said by a string. -/
theorem exists_string (h : a.Coherent) {member : Trigram → Bool} (hverdict : a.verdict member = true) (side : Side) :
    ∃ s ∈ a.strings side, ∀ t ∈ Trigram.windows s, member t = true := by
  cases side with
  | front => exact (exists_beginning member h hverdict).1
  | back => exact (exists_beginning member h hverdict).2

/-! ## Sequences -/

theorem mem_concatHeads (hxn : x.exact = none) {s : Bytes} :
    s ∈ concatHeads x y ↔ s ∈ x.heads ∨ x.canBeEmpty = true ∧ s ∈ y.beginnings := by
  rw [concatHeads, hxn]
  by_cases hempty : x.canBeEmpty = true <;> simp [hempty]

theorem mem_concatTails (hyn : y.exact = none) {s : Bytes} :
    s ∈ concatTails x y ↔ s ∈ y.tails ∨ y.canBeEmpty = true ∧ s ∈ x.endings := by
  rw [concatTails, hyn]
  by_cases hempty : y.canBeEmpty = true <;> simp [hempty]

/-- If the left part is exact, a sequence begins with one of its strings and goes on with one of the right part. -/
theorem exists_of_mem_beginnings_sequence {xs : StringSet} (hxs : x.exact = some xs) {s : Bytes}
    (hs : s ∈ (sequence limits x y).strings .front) : ∃ u ∈ xs, ∃ v ∈ y.strings .front, u ++ v = s := by
  rw [strings, beginnings, sequence, hxs] at hs
  rcases hy : y.exact with _ | ys
  · rw [hy] at hs
    change s ∈ concatHeads x y at hs
    rw [concatHeads, hxs] at hs
    rw [strings_front hy]
    exact StringSet.mem_cross.mp hs
  · rw [hy] at hs
    rw [strings_of_some hy]
    exact StringSet.mem_cross.mp hs

/-- If the right part is exact, a sequence ends with one of its strings behind one of the left part. -/
theorem exists_of_mem_endings_sequence {ys : StringSet} (hys : y.exact = some ys) {s : Bytes}
    (hs : s ∈ (sequence limits x y).strings .back) : ∃ u ∈ x.strings .back, ∃ v ∈ ys, u ++ v = s := by
  rw [strings, endings, sequence, hys] at hs
  rcases hx : x.exact with _ | xs
  · rw [hx] at hs
    change s ∈ concatTails x y at hs
    rw [concatTails, hys] at hs
    rw [strings_back hx]
    exact StringSet.mem_cross.mp hs
  · rw [hx] at hs
    rw [strings_of_some hx]
    exact StringSet.mem_cross.mp hs

/-- A sequence with a part that is not exact is given by its beginnings and endings. -/
theorem sequence_of_none (limits : Limits) (hn : x.exact = none ∨ y.exact = none) :
    (sequence limits x y).exact = none ∧ (sequence limits x y).strings .front = concatHeads x y ∧
      (sequence limits x y).strings .back = concatTails x y := by
  unfold sequence
  split
  · next xs ys hxs hys =>
    rcases hn with hn | hn
    · cases hn.symm.trans hxs
    · cases hn.symm.trans hys
  · exact ⟨rfl, rfl, rfl⟩

/-- The condition of a sequence is made of those of its parts and of the seam. -/
theorem condition_sequence (limits : Limits) (x y : Analysis) :
    (sequence limits x y).condition = (x.condition.conj y.condition).conj (seam limits x y) := by
  unfold sequence
  split <;> rfl

theorem canBeEmpty_sequence (limits : Limits) (x y : Analysis) :
    (sequence limits x y).canBeEmpty = (x.canBeEmpty && y.canBeEmpty) := by
  unfold sequence
  split <;> rfl

/-! ## Alternatives and repetitions -/

theorem canBeEmpty_alternatives (x y : Analysis) :
    (alternatives x y).canBeEmpty = (x.canBeEmpty || y.canBeEmpty) := by
  unfold alternatives
  split <;> rfl

/-- Alternatives begin and end with what one of them begins or ends with. -/
theorem mem_strings_alternatives {side : Side} {s : Bytes} :
    s ∈ (alternatives x y).strings side ↔ s ∈ x.strings side ∨ s ∈ y.strings side := by
  unfold alternatives
  split
  · next xs ys hxs hys =>
    rw [strings_of_some rfl, strings_of_some hxs, strings_of_some hys]
    exact StringSet.mem_union
  · cases side with
    | front => exact StringSet.mem_union
    | back => exact StringSet.mem_union

theorem alternatives_of_none (hn : x.exact = none ∨ y.exact = none) : (alternatives x y).exact = none := by
  unfold alternatives
  split
  · next xs ys hxs hys =>
    rcases hn with hn | hn
    · cases hn.symm.trans hxs
    · cases hn.symm.trans hys
  · rfl

theorem strings_repeatedly (a : Analysis) (side : Side) : a.repeatedly.strings side = a.strings side := by
  unfold repeatedly
  split
  · next set he =>
    rw [strings_of_some he]
    cases side <;> rfl
  · rfl

theorem exact_repeatedly (a : Analysis) : a.repeatedly.exact = none := by
  unfold repeatedly
  split
  · rfl
  · assumption

theorem canBeEmpty_repeatedly (a : Analysis) : a.repeatedly.canBeEmpty = a.canBeEmpty := by
  unfold repeatedly
  split <;> rfl

end Analysis

end TrigramGrep
