import Mathlib.Data.Finset.Dedup
import Mathlib.Data.Finset.Lattice.Basic
import Mathlib.Data.List.Sort
import TrigramGrep.Proofs.Posting

/-!
# The algebra of posting lists

An ascending list is known by its members.  So the ascending lists are a copy of the finite sets of ids, with the
intersection of two lists for the meet and their union for the join, and the laws of a distributive lattice are laws
of the lists themselves (`Posting.set_algebra`).
-/

namespace TrigramGrep

/-- A posting list that ascends strictly. -/
def AscendingPosting := { ids : Posting // ids.Pairwise (· < ·) }

namespace AscendingPosting

/-- The set of the ids of a list. -/
def toFinset (xs : AscendingPosting) : Finset FileId := xs.val.toFinset

@[simp] theorem mem_toFinset {id : FileId} {xs : AscendingPosting} : id ∈ xs.toFinset ↔ id ∈ xs.val :=
  List.mem_toFinset

/-- No other ascending list has the same members. -/
theorem toFinset_injective : Function.Injective toFinset := by
  intro xs ys h
  apply Subtype.ext
  apply xs.property.eq_of_mem_iff ys.property
  intro id
  rw [← mem_toFinset, h, mem_toFinset]

instance : LE AscendingPosting := ⟨fun xs ys => xs.toFinset ≤ ys.toFinset⟩

instance : LT AscendingPosting := ⟨fun xs ys => xs.toFinset < ys.toFinset⟩

instance : Min AscendingPosting :=
  ⟨fun xs ys => ⟨Posting.inter xs.val ys.val, Posting.pairwise_inter xs.property ys.val⟩⟩

instance : Max AscendingPosting :=
  ⟨fun xs ys => ⟨Posting.union xs.val ys.val, Posting.pairwise_union xs.property ys.property⟩⟩

theorem toFinset_inf (xs ys : AscendingPosting) : (xs ⊓ ys).toFinset = xs.toFinset ⊓ ys.toFinset := by
  ext id
  rw [Finset.inf_eq_inter, Finset.mem_inter, mem_toFinset, mem_toFinset, mem_toFinset]
  exact Posting.mem_inter xs.property ys.property

theorem toFinset_sup (xs ys : AscendingPosting) : (xs ⊔ ys).toFinset = xs.toFinset ⊔ ys.toFinset := by
  ext id
  rw [Finset.sup_eq_union, Finset.mem_union, mem_toFinset, mem_toFinset, mem_toFinset]
  exact Posting.mem_union xs.val ys.val

instance : DistribLattice AscendingPosting :=
  toFinset_injective.distribLattice toFinset Iff.rfl Iff.rfl toFinset_sup toFinset_inf

end AscendingPosting

namespace Posting

/-- **Posting lists are sets.**  Of ascending lists the intersection and the union ascend and have just the ids of both
lists and of either list, so the two are commutative, associative and idempotent and distribute over each other.  Of
any lists, ascending or not, the intersection is a subsequence of each; each is a subsequence of the union, and no id
of the union comes from elsewhere. -/
theorem set_algebra {xs ys zs : Posting} (hx : xs.Pairwise (· < ·)) (hy : ys.Pairwise (· < ·))
    (hz : zs.Pairwise (· < ·)) :
    ((inter xs ys).Pairwise (· < ·) ∧ ∀ id, id ∈ inter xs ys ↔ id ∈ xs ∧ id ∈ ys) ∧
      ((union xs ys).Pairwise (· < ·) ∧ ∀ id, id ∈ union xs ys ↔ id ∈ xs ∨ id ∈ ys) ∧
      (inter xs ys = inter ys xs ∧ union xs ys = union ys xs) ∧
      (inter (inter xs ys) zs = inter xs (inter ys zs) ∧ union (union xs ys) zs = union xs (union ys zs)) ∧
      (inter xs xs = xs ∧ union xs xs = xs) ∧
      (inter xs (union ys zs) = union (inter xs ys) (inter xs zs) ∧
        union xs (inter ys zs) = inter (union xs ys) (union xs zs)) ∧
      ∀ as bs : Posting,
        ((inter as bs).Sublist as ∧ (inter as bs).Sublist bs) ∧
          (as.Sublist (union as bs) ∧ bs.Sublist (union as bs)) ∧
          ∀ id ∈ union as bs, id ∈ as ∨ id ∈ bs := by
  let a : AscendingPosting := ⟨xs, hx⟩
  let b : AscendingPosting := ⟨ys, hy⟩
  let c : AscendingPosting := ⟨zs, hz⟩
  refine ⟨⟨pairwise_inter hx ys, fun id => mem_inter hx hy⟩, ⟨pairwise_union hx hy, fun id => mem_union xs ys⟩,
    ?_, ?_, ?_, ?_, ?_⟩
  · exact ⟨congrArg Subtype.val (inf_comm a b), congrArg Subtype.val (sup_comm a b)⟩
  · exact ⟨congrArg Subtype.val (inf_assoc a b c), congrArg Subtype.val (sup_assoc a b c)⟩
  · exact ⟨congrArg Subtype.val (inf_idem a), congrArg Subtype.val (sup_idem a)⟩
  · exact ⟨congrArg Subtype.val (inf_sup_left a b c), congrArg Subtype.val (sup_inf_left a b c)⟩
  · intro as bs
    refine ⟨⟨inter_sublist_left as bs, inter_sublist_right as bs⟩,
      ⟨sublist_union_left as bs, sublist_union_right as bs⟩, ?_⟩
    intro id hid
    exact (mem_union as bs).mp hid

/-- Three lists that overlap in pairs, and two that do not ascend and are of the same ids. -/
theorem set_algebra_overlapping :
    [1, 3, 5].Pairwise ((· < ·) : FileId → FileId → Prop) ∧ [3, 4].Pairwise ((· < ·) : FileId → FileId → Prop) ∧
      [4, 5].Pairwise ((· < ·) : FileId → FileId → Prop) ∧
      union (inter [1, 3, 5] [3, 4]) (inter [1, 3, 5] [4, 5]) = [3, 5] ∧
      inter [5, 1, 2] [1, 2, 5] = [5] ∧ (inter [5, 1, 2] [1, 2, 5]).Sublist [1, 2, 5] ∧
      union [5, 1, 2] [1, 2, 5] = [1, 2, 5, 1, 2] ∧ [5, 1, 2].Sublist (union [5, 1, 2] [1, 2, 5]) := by
  have hx : [1, 3, 5].Pairwise ((· < ·) : FileId → FileId → Prop) := by decide
  have hy : [3, 4].Pairwise ((· < ·) : FileId → FileId → Prop) := by decide
  have hz : [4, 5].Pairwise ((· < ·) : FileId → FileId → Prop) := by decide
  have hmerged : inter [1, 3, 5] (union [3, 4] [4, 5]) = [3, 5] := by cbv
  obtain ⟨-, -, -, -, -, ⟨hdistrib, -⟩, hany⟩ := set_algebra hx hy hz
  obtain ⟨⟨-, hright⟩, ⟨hleft, -⟩, -⟩ := hany [5, 1, 2] [1, 2, 5]
  exact ⟨hx, hy, hz, hdistrib.symm.trans hmerged, by cbv, hright, by cbv, hleft⟩

end Posting

end TrigramGrep
