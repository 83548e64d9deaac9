import TrigramGrep.Proofs.Query.Truth
import TrigramGrep.Proofs.Trigram.Windows
import TrigramGrep.Query.StringSet

/-!
# What sets of strings say of a text

A set of beginnings covers a text when the text begins with one of its strings, and a set of endings when
it ends with one.  Sorting, cutting and pruning a set leave all texts covered that were covered before:
each replaces a string by one that stands at the same side of it.  The condition of a set holds of every
text that has one of its strings somewhere.
-/

namespace TrigramGrep

namespace Side

/-- A string stands at a side of a text: at the front the text begins with it, at the back it ends
with it. -/
def Bounds (side : Side) (s text : Bytes) : Prop :=
  side.inwards s <+: side.inwards text

theorem bounds_front {s text : Bytes} : Side.front.Bounds s text ↔ s <+: text := Iff.rfl

theorem bounds_back {s text : Bytes} : Side.back.Bounds s text ↔ s <:+ text :=
  List.reverse_prefix

theorem Bounds.refl (side : Side) (s : Bytes) : side.Bounds s s :=
  List.prefix_refl _

theorem Bounds.trans {side : Side} {s t text : Bytes} (hst : side.Bounds s t)
    (ht : side.Bounds t text) : side.Bounds s text :=
  List.IsPrefix.trans hst ht

/-- Whatever stands at a side of a text is a part of it. -/
theorem Bounds.isPart {side : Side} {s text : Bytes} (h : side.Bounds s text) : s <:+: text := by
  cases side with
  | front => exact (bounds_front.mp h).isInfix
  | back => exact (bounds_back.mp h).isInfix

theorem bounds_nil (side : Side) (text : Bytes) : side.Bounds [] text := by
  cases side <;> simp [Bounds, inwards]

theorem inwards_injective (side : Side) : Function.Injective side.inwards := by
  intro s t h
  cases side with
  | front => exact h
  | back => exact List.reverse_injective h

theorem inwards_keep (side : Side) (length : Nat) (s : Bytes) :
    side.inwards (side.keep length s) = (side.inwards s).take length := by
  cases side with
  | front => rfl
  | back => exact List.take_reverse.symm

theorem length_inwards (side : Side) (s : Bytes) : (side.inwards s).length = s.length := by
  cases side with
  | front => rfl
  | back => exact List.length_reverse

/-- What is kept of a string stands at the side where it is kept. -/
theorem bounds_keep (side : Side) (length : Nat) (s : Bytes) : side.Bounds (side.keep length s) s := by
  rw [Bounds, inwards_keep]
  exact List.take_prefix length (side.inwards s)

/-- Nothing is cut off a string that is short enough. -/
theorem keep_of_length_le {side : Side} {s : Bytes} {length : Nat} (h : s.length ≤ length) : side.keep length s = s := by
  apply side.inwards_injective
  rw [inwards_keep, List.take_of_length_le]
  rwa [length_inwards]

/-- So what is kept of a string may be taken of all strings alike. -/
theorem ite_keep (side : Side) (length : Nat) (s : Bytes) :
    (if s.length < length + 1 then s else side.keep length s) = side.keep length s := by
  by_cases h : s.length < length + 1
  · rw [if_pos h, keep_of_length_le (Nat.le_of_lt_succ h)]
  · rw [if_neg h]

/-- A short string at the side of a text stays there when the text is cut. -/
theorem Bounds.keep {side : Side} {s text : Bytes} {length : Nat} (h : side.Bounds s text)
    (hs : s.length ≤ length) : side.Bounds s (side.keep length text) := by
  rw [Bounds, inwards_keep, List.prefix_take_iff, length_inwards]
  exact ⟨h, hs⟩

theorem isWithin_iff {side : Side} {part whole : Bytes} :
    side.isWithin part whole = true ↔ side.Bounds part whole :=
  List.isPrefixOf_iff_prefix

end Side

namespace StringSet

/-- Some string of a set stands at a side of a text. -/
def Covers (side : Side) (set : StringSet) (text : Bytes) : Prop :=
  ∃ s ∈ set, side.Bounds s text

theorem Covers.of_mem {side : Side} {set : StringSet} {s : Bytes} (h : s ∈ set) :
    Covers side set s :=
  ⟨s, h, .refl side s⟩

/-- A set covers whatever another one covers, if it covers the other's strings. -/
theorem Covers.of_forall_mem {side : Side} {set other : StringSet} {text : Bytes}
    (h : Covers side set text) (hset : ∀ s ∈ set, Covers side other s) : Covers side other text := by
  obtain ⟨s, hs, hst⟩ := h
  obtain ⟨t, ht, hts⟩ := hset s hs
  exact ⟨t, ht, hts.trans hst⟩

theorem Covers.mono {side : Side} {set other : StringSet} {text : Bytes} (h : Covers side set text)
    (hset : set ⊆ other) : Covers side other text :=
  h.of_forall_mem fun _ hs => .of_mem (hset hs)

/-! ## Operations on sets -/

@[simp] theorem mem_clean {side : Side} {set : StringSet} {s : Bytes} :
    s ∈ clean side set ↔ s ∈ set := by
  simp [clean]

/-- The strings of a sorted set ascend strictly. -/
theorem pairwise_clean (side : Side) (set : StringSet) :
    (set.clean side).Pairwise fun s t => side.le s t = true ∧ s ≠ t :=
  SortedLists.pairwise_eraseReps_mergeSort side.le
    (fun s t u hst htu => decide_eq_true (List.le_trans (of_decide_eq_true hst) (of_decide_eq_true htu)))
    (fun s t => by
      rw [Bool.or_eq_true]
      exact (List.le_total (side.inwards s) (side.inwards t)).imp decide_eq_true decide_eq_true)
    (fun s t hst hts =>
      side.inwards_injective (List.le_antisymm (of_decide_eq_true hst) (of_decide_eq_true hts))) set

/-- Each of them stands there once. -/
theorem nodup_clean (side : Side) (set : StringSet) : (set.clean side).Nodup :=
  (pairwise_clean side set).imp And.right

/-- A set that ascends strictly is left as it is. -/
theorem clean_of_pairwise {side : Side} {set : StringSet}
    (h : set.Pairwise fun s t => side.le s t = true ∧ s ≠ t) : set.clean side = set := by
  rw [clean, List.mergeSort_of_pairwise (h.imp And.left), SortedLists.eraseReps_of_nodup (h.imp And.right)]

theorem clean_singleton (side : Side) (s : Bytes) : clean side [s] = [s] :=
  clean_of_pairwise (List.pairwise_singleton _ s)

@[simp] theorem mem_cross {side : Side} {xs ys : StringSet} {s : Bytes} :
    s ∈ cross side xs ys ↔ ∃ x ∈ xs, ∃ y ∈ ys, x ++ y = s := by
  simp [cross]

@[simp] theorem mem_union {side : Side} {xs ys : StringSet} {s : Bytes} :
    s ∈ union side xs ys ↔ s ∈ xs ∨ s ∈ ys := by
  simp [union]

theorem Covers.clean {side : Side} {set : StringSet} {text : Bytes} (h : Covers side set text) :
    Covers side (set.clean side) text :=
  h.mono fun _ hs => mem_clean.mpr hs

theorem Covers.shorten {side : Side} {set : StringSet} {text : Bytes} (h : Covers side set text)
    (length : Nat) : Covers side (set.shorten side length) text :=
  h.of_forall_mem fun s hs =>
    ⟨side.keep length s, mem_clean.mpr (List.mem_map_of_mem hs), side.bounds_keep length s⟩

theorem Covers.reduce {side : Side} {set : StringSet} {text : Bytes} (h : Covers side set text)
    (limit : Nat) : Covers side (set.reduce side limit) text := by
  unfold StringSet.reduce
  dsimp only
  split
  · exact h.shorten 2
  · split
    · exact (h.shorten 2).shorten 1
    · exact ((h.shorten 2).shorten 1).shorten 0

/-- A string that is left out has the string kept last at its side. -/
theorem covers_pruneAfter {side : Side} (kept : Option Bytes) {set : StringSet} {s : Bytes}
    (h : s ∈ set) : Covers side (kept.toList ++ pruneAfter side kept set) s := by
  induction set generalizing kept with
  | nil => simp at h
  | cons first rest ih =>
    rw [pruneAfter]
    split
    · next hkept =>
      obtain ⟨k, rfl, hwithin⟩ : ∃ k, kept = some k ∧ side.isWithin k first = true := by
        cases kept <;> simp_all
      rcases List.mem_cons.mp h with rfl | hrest
      · exact ⟨k, by simp, Side.isWithin_iff.mp hwithin⟩
      · exact ih _ hrest
    · rcases List.mem_cons.mp h with rfl | hrest
      · exact .of_mem (by simp)
      · exact (ih (some first) hrest).mono (by simp)

theorem Covers.prune {side : Side} {set : StringSet} {text : Bytes} (h : Covers side set text) :
    Covers side (set.prune side) text :=
  h.of_forall_mem fun _ hs => covers_pruneAfter none hs

/-! ## The condition of a set -/

theorem holds_foldl_disj (member : Trigram → Bool) (q : Query) (set : StringSet) :
    Query.holds member (set.foldl (fun q s => q.disj (Query.hasAll (Trigram.distinct s))) q) =
      (q.holds member || set.any fun s => (Trigram.distinct s).all member) := by
  induction set generalizing q with
  | nil => simp
  | cons s set ih =>
    rw [List.foldl_cons, ih, Query.holds_disj, Query.holds_hasAll, List.any_cons, Bool.or_assoc]

/-- A set with a short string gives no condition, any other asks for the trigrams of one of its
strings. -/
theorem holds_condition (member : Trigram → Bool) (set : StringSet) :
    Query.holds member (condition set) =
      (decide (minLength set < 3) || set.any fun s => (Trigram.distinct s).all member) := by
  unfold condition
  split
  · next h => simp [h]
  · next h => rw [holds_foldl_disj, Query.holds_never, Bool.false_or, decide_eq_false h, Bool.false_or]

end StringSet

/-- Whether a query holds of a text. -/
def Query.holdsOf (text : Bytes) (q : Query) : Bool :=
  q.holds fun t => decide (t ∈ Trigram.windows text)

/-- A text that has a string of a set in it meets the condition of the set. -/
theorem StringSet.holdsOf_condition {set : StringSet} {s text : Bytes} (hs : s ∈ set)
    (h : s <:+: text) : (condition set).holdsOf text = true := by
  have : (set.any fun s => (Trigram.distinct s).all fun t => decide (t ∈ Trigram.windows text)) := by
    simp only [List.any_eq_true, List.all_eq_true, decide_eq_true_eq, Trigram.mem_distinct]
    exact ⟨s, hs, fun t ht => Trigram.mem_windows_of_infix h ht⟩
  rw [Query.holdsOf, holds_condition, this, Bool.or_true]

end TrigramGrep
