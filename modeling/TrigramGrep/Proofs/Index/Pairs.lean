import Mathlib.Algebra.Group.Nat.Defs
import Mathlib.Data.List.SplitBy
import TrigramGrep.Index.Writer
import TrigramGrep.Proofs.SortedLists

/-!
# Pairs and their groups

Packing loses nothing and orders pairs by their trigrams first.  So in an ascending list the pairs of one
trigram are neighbours, and collecting neighbours gives every trigram once, in order, with all its files.
-/

namespace TrigramGrep.Index

namespace Pair

/-! ## Packing -/

theorem toNat_pack (t : Trigram) (id : FileId) :
    (pack t id).toNat = t.toNat * 2 ^ 32 + id.toNat := by
  have ht := t.toNat_lt
  have hid := id.toNat_lt
  have hshift : (t.toUInt64 <<< 32).toNat = t.toNat * 2 ^ 32 := by
    rw [UInt64.toNat_shiftLeft, UInt32.toNat_toUInt64, Nat.shiftLeft_eq]
    exact Nat.mod_eq_of_lt (by simp; omega)
  rw [pack, UInt64.toNat_or, hshift, UInt32.toNat_toUInt64, Nat.mul_comm, Nat.two_pow_add_eq_or_of_lt hid]

/-- A pair is packed from its two parts. -/
theorem toNat_eq (p : Pair) : p.toNat = p.unpack.1.toNat * 2 ^ 32 + p.unpack.2.toNat := by
  have hp := p.toNat_lt
  simp only [unpack, UInt64.toNat_toUInt32, UInt64.toNat_shiftRight, Nat.shiftRight_eq_div_pow,
    UInt64.reduceToNat, Nat.reduceMod, Nat.reducePow]
  omega

@[simp] theorem unpack_pack (t : Trigram) (id : FileId) : (pack t id).unpack = (t, id) := by
  have hid := id.toNat_lt
  have h := (toNat_pack t id).symm.trans (toNat_eq (pack t id))
  have hlow := (pack t id).unpack.2.toNat_lt
  refine Prod.ext (UInt32.toNat_inj.mp ?_) (UInt32.toNat_inj.mp ?_) <;> dsimp only <;> omega

@[simp] theorem pack_unpack (p : Pair) : pack p.unpack.1 p.unpack.2 = p :=
  UInt64.toNat_inj.mp ((toNat_pack _ _).trans (toNat_eq p).symm)

/-- Pairs are ordered by their trigrams and, where these agree, by their files. -/
theorem lt_iff {p q : Pair} :
    p < q ↔ p.unpack.1 < q.unpack.1 ∨ p.unpack.1 = q.unpack.1 ∧ p.unpack.2 < q.unpack.2 := by
  have hp := p.unpack.2.toNat_lt
  have hq := q.unpack.2.toNat_lt
  rw [UInt64.lt_iff_toNat_lt, toNat_eq p, toNat_eq q, UInt32.lt_iff_toNat_lt, UInt32.lt_iff_toNat_lt,
    ← UInt32.toNat_inj]
  omega

end Pair

namespace Writer

/-! ## Groups -/

/-- All pairs of a group are of one trigram. -/
private theorem trigram_eq_of_mem_group {pairs group : List Pair}
    (h : group ∈ pairs.splitBy fun p q => p.unpack.1 = q.unpack.1) :
    ∀ p ∈ group, ∀ q ∈ group, p.unpack.1 = q.unpack.1 := by
  have hchain := (List.isChain_of_mem_splitBy h).imp
    (S := fun p q : Pair => p.unpack.1 = q.unpack.1) fun p q hpq => of_decide_eq_true hpq
  have : Trans (fun p q : Pair => p.unpack.1 = q.unpack.1)
      (fun p q : Pair => p.unpack.1 = q.unpack.1) (fun p q : Pair => p.unpack.1 = q.unpack.1) :=
    ⟨Eq.trans⟩
  have : Std.Symm fun p q : Pair => p.unpack.1 = q.unpack.1 := ⟨fun _ _ => Eq.symm⟩
  exact (List.isChain_iff_pairwise.mp hchain).forall_of_forall fun _ _ => rfl

/-- Groups of one trigram each ascend by their trigrams when their pairs ascend and neighbouring groups
differ at the place where they meet. -/
private theorem pairwise_groups {groups : List (List Pair)}
    (hone : ∀ group ∈ groups, ∀ p ∈ group, ∀ q ∈ group, p.unpack.1 = q.unpack.1)
    (hsorted : groups.Pairwise fun group later => ∀ p ∈ group, ∀ q ∈ later, p < q)
    (hmeet : groups.IsChain fun group next =>
      ∃ hgroup hnext, (group.getLast hgroup).unpack.1 ≠ (next.head hnext).unpack.1) :
    groups.Pairwise fun group later => ∀ p ∈ group, ∀ q ∈ later, p.unpack.1 < q.unpack.1 := by
  induction groups with
  | nil => exact .nil
  | cons group groups ih =>
    have hrest := ih (fun other hother => hone other (List.mem_cons_of_mem _ hother)) hsorted.of_cons
      hmeet.tail
    refine List.pairwise_cons.mpr ⟨?_, hrest⟩
    cases groups with
    | nil => simp
    | cons next groups =>
      obtain ⟨⟨hgroup, hnext, hne⟩, -⟩ := List.isChain_cons_cons.mp hmeet
      have hfirst : ∀ p ∈ group, ∀ q ∈ next, p.unpack.1 < q.unpack.1 := by
        intro p hp q hq
        have hp' := hone group List.mem_cons_self p hp _ (List.getLast_mem hgroup)
        have hq' := hone next (by simp) q hq _ (List.head_mem hnext)
        have hlt := List.rel_of_pairwise_cons hsorted List.mem_cons_self _ (List.getLast_mem hgroup) _
          (List.head_mem hnext)
        rcases Pair.lt_iff.mp hlt with hlt | ⟨heq, -⟩
        · rwa [hp', hq']
        · exact absurd heq hne
      intro later hlater p hp q hq
      rcases List.mem_cons.mp hlater with rfl | hlater
      · exact hfirst p hp q hq
      · -- any pair of the next group lies between the two
        have hmiddle := List.head_mem hnext
        exact UInt32.lt_trans (hfirst p hp _ hmiddle)
          (List.rel_of_pairwise_cons hrest hlater _ hmiddle q hq)

variable {pairs : List Pair}

/-- A collected entry comes from a group that is not empty. -/
private theorem exists_group_of_mem {entry : Trigram × Posting} (h : entry ∈ groupPairs pairs) :
    ∃ group ∈ pairs.splitBy (fun p q => p.unpack.1 = q.unpack.1), ∃ p ∈ group,
      p.unpack.1 = entry.1 ∧ entry.2 = group.map fun p => p.unpack.2 := by
  obtain ⟨group, hgroup, hentry⟩ := List.mem_filterMap.mp h
  obtain ⟨p, hp, rfl⟩ := Option.map_eq_some_iff.mp hentry
  exact ⟨group, hgroup, p, List.mem_of_mem_head? hp, rfl, rfl⟩

/-- The trigrams of the groups of an ascending list ascend. -/
theorem pairwise_groupPairs (h : pairs.Pairwise (· < ·)) :
    (groupPairs pairs).Pairwise fun entry later => entry.1 < later.1 := by
  have hflat := h
  rw [← List.flatten_splitBy (fun p q => p.unpack.1 = q.unpack.1) pairs] at hflat
  have hgroups := pairwise_groups (fun _ => trigram_eq_of_mem_group) (List.pairwise_flatten.mp hflat).2
    ((List.isChain_getLast_head_splitBy (fun p q : Pair => p.unpack.1 = q.unpack.1) pairs).imp
      fun _ _ ⟨hgroup, hnext, hne⟩ => ⟨hgroup, hnext, of_decide_eq_false hne⟩)
  refine List.pairwise_filterMap.mpr (hgroups.imp ?_)
  intro group later hlt entry hentry entry' hentry'
  obtain ⟨p, hp, rfl⟩ := Option.map_eq_some_iff.mp hentry
  obtain ⟨q, hq, rfl⟩ := Option.map_eq_some_iff.mp hentry'
  exact hlt p (List.mem_of_mem_head? hp) q (List.mem_of_mem_head? hq)

/-- Every pair is in the group of its trigram. -/
theorem exists_mem_groupPairs {p : Pair} (hp : p ∈ pairs) :
    ∃ entry ∈ groupPairs pairs, entry.1 = p.unpack.1 ∧ p.unpack.2 ∈ entry.2 := by
  rw [← List.flatten_splitBy (fun p q => p.unpack.1 = q.unpack.1) pairs, List.mem_flatten] at hp
  obtain ⟨group, hgroup, hp⟩ := hp
  cases group with
  | nil => simp at hp
  | cons first rest =>
    refine ⟨_, List.mem_filterMap.mpr ⟨_, hgroup, rfl⟩, ?_, List.mem_map_of_mem hp⟩
    exact trigram_eq_of_mem_group hgroup first List.mem_cons_self p hp

variable {entry : Trigram × Posting}

/-- No group is empty. -/
theorem posting_ne_nil (hentry : entry ∈ groupPairs pairs) : entry.2 ≠ [] := by
  obtain ⟨group, -, p, hp, -, hids⟩ := exists_group_of_mem hentry
  rw [hids]
  exact List.ne_nil_of_mem (List.mem_map_of_mem hp)

/-- The files of a group ascend. -/
theorem pairwise_posting (h : pairs.Pairwise (· < ·)) (hentry : entry ∈ groupPairs pairs) :
    entry.2.Pairwise (· < ·) := by
  obtain ⟨group, hgroup, -, -, -, hids⟩ := exists_group_of_mem hentry
  have hsub : group.Sublist pairs := by
    rw [← List.flatten_splitBy (fun p q => p.unpack.1 = q.unpack.1) pairs]
    exact List.sublist_flatten_of_mem hgroup
  rw [hids, List.pairwise_map]
  refine (h.sublist hsub).imp_of_mem fun {p q} hp hq hlt => ?_
  rcases Pair.lt_iff.mp hlt with hlt | ⟨-, hlt⟩
  · exact absurd (trigram_eq_of_mem_group hgroup p hp q hq) (UInt32.ne_of_lt hlt)
  · exact hlt

/-- The files of a group are those that stand in a pair with its trigram. -/
theorem mem_posting (h : pairs.Pairwise (· < ·)) (hentry : entry ∈ groupPairs pairs) {id : FileId} :
    id ∈ entry.2 ↔ Pair.pack entry.1 id ∈ pairs := by
  constructor
  · intro hid
    obtain ⟨group, hgroup, first, hfirst, htrigram, hids⟩ := exists_group_of_mem hentry
    rw [hids, List.mem_map] at hid
    obtain ⟨p, hp, rfl⟩ := hid
    rw [← htrigram, trigram_eq_of_mem_group hgroup first hfirst p hp, Pair.pack_unpack,
      ← List.flatten_splitBy (fun p q => p.unpack.1 = q.unpack.1) pairs]
    exact List.mem_flatten.mpr ⟨group, hgroup, hp⟩
  · intro hp
    obtain ⟨other, hother, htrigram, hid⟩ := exists_mem_groupPairs hp
    rw [Pair.unpack_pack] at htrigram hid
    -- no other group has the same trigram
    rwa [SortedLists.eq_of_key_eq Prod.fst (pairwise_groupPairs h) hother hentry htrigram]
      at hid

end Writer

end TrigramGrep.Index
