import TrigramGrep.Posting

/-!
# Posting lists as sets

On ascending lists the two merges are intersection and union of the sets of ids.  That the results ascend
does not depend on what the lists are merged with: an intersection is a part of each list, and a union
emits the smaller of two heads.

Where lists do not ascend the merges still walk along both without turning back: what an intersection emits
stands in each list in the same order, and a union holds each list in its own order and makes no id up.
-/

namespace TrigramGrep.Posting

/-- What is below the head of an ascending list is below all of it. -/
theorem lt_of_lt_head {x y id : FileId} {ys : Posting} (hxy : x < y)
    (hy : (y :: ys).Pairwise (· < ·)) (h : id ∈ y :: ys) : x < id := by
  rcases List.mem_cons.mp h with rfl | h
  · exact hxy
  · exact UInt32.lt_trans hxy (List.rel_of_pairwise_cons hy h)

private theorem eq_of_not_lt {x y : FileId} (hxy : ¬x < y) (hyx : ¬y < x) : x = y :=
  UInt32.le_antisymm (UInt32.not_lt.mp hyx) (UInt32.not_lt.mp hxy)

/-! ## Union -/

/-- A union has just the ids of its two lists, in whatever order they stand. -/
@[simp] theorem mem_union {id : FileId} (xs ys : Posting) : id ∈ union xs ys ↔ id ∈ xs ∨ id ∈ ys := by
  fun_induction union xs ys with
  | case1 ys => simp
  | case2 x xs => simp
  | case3 x xs y ys _ ih => simp only [List.mem_cons, ih]; grind
  | case4 x xs y ys _ _ ih => simp only [List.mem_cons, ih]; grind
  | case5 x xs y ys hxy hyx ih =>
    obtain rfl := eq_of_not_lt hxy hyx
    simp only [List.mem_cons, ih]
    grind

theorem pairwise_union {xs ys : Posting} (hx : xs.Pairwise (· < ·)) (hy : ys.Pairwise (· < ·)) :
    (union xs ys).Pairwise (· < ·) := by
  fun_induction union xs ys with
  | case1 ys => exact hy
  | case2 x xs => exact hx
  | case3 x xs y ys hxy ih =>
    refine List.pairwise_cons.mpr ⟨fun id hid => ?_, ih hx.of_cons hy⟩
    rcases (mem_union _ _).mp hid with h | h
    · exact List.rel_of_pairwise_cons hx h
    · exact lt_of_lt_head hxy hy h
  | case4 x xs y ys _ hyx ih =>
    refine List.pairwise_cons.mpr ⟨fun id hid => ?_, ih hx hy.of_cons⟩
    rcases (mem_union _ _).mp hid with h | h
    · exact lt_of_lt_head hyx hx h
    · exact List.rel_of_pairwise_cons hy h
  | case5 x xs y ys hxy hyx ih =>
    obtain rfl := eq_of_not_lt hxy hyx
    refine List.pairwise_cons.mpr ⟨fun id hid => ?_, ih hx.of_cons hy.of_cons⟩
    rcases (mem_union _ _).mp hid with h | h
    · exact List.rel_of_pairwise_cons hx h
    · exact List.rel_of_pairwise_cons hy h

/-- The first list stands in a union in its own order. -/
theorem sublist_union_left (xs ys : Posting) : xs.Sublist (union xs ys) := by
  fun_induction union xs ys with
  | case1 ys => exact List.nil_sublist _
  | case2 x xs => exact List.Sublist.refl _
  | case3 x xs y ys _ ih => exact ih.cons_cons x
  | case4 x xs y ys _ _ ih => exact ih.cons y
  | case5 x xs y ys _ _ ih => exact ih.cons_cons x

/-- So does the second one. -/
theorem sublist_union_right (xs ys : Posting) : ys.Sublist (union xs ys) := by
  fun_induction union xs ys with
  | case1 ys => exact List.Sublist.refl _
  | case2 x xs => exact List.nil_sublist _
  | case3 x xs y ys _ ih => exact ih.cons x
  | case4 x xs y ys _ _ ih => exact ih.cons_cons y
  | case5 x xs y ys hxy hyx ih =>
    obtain rfl := eq_of_not_lt hxy hyx
    exact ih.cons_cons x

/-! ## Intersection -/

theorem inter_sublist_left (xs ys : Posting) : (inter xs ys).Sublist xs := by
  fun_induction inter xs ys with
  | case1 ys => exact .slnil
  | case2 x xs => exact List.nil_sublist _
  | case3 x xs y ys _ ih => exact ih.cons x
  | case4 x xs y ys _ _ ih => exact ih
  | case5 x xs y ys _ _ ih => exact ih.cons_cons x

theorem inter_sublist_right (xs ys : Posting) : (inter xs ys).Sublist ys := by
  fun_induction inter xs ys with
  | case1 ys => exact List.nil_sublist _
  | case2 x xs => exact .slnil
  | case3 x xs y ys _ ih => exact ih
  | case4 x xs y ys _ _ ih => exact ih.cons y
  | case5 x xs y ys hxy hyx ih =>
    obtain rfl := eq_of_not_lt hxy hyx
    exact ih.cons_cons x

theorem pairwise_inter {xs : Posting} (hx : xs.Pairwise (· < ·)) (ys : Posting) :
    (inter xs ys).Pairwise (· < ·) :=
  hx.sublist (inter_sublist_left xs ys)

/-- An intersection of ascending lists has just the ids of both: an id that is passed over is below all
that is left of the other list. -/
theorem mem_inter {id : FileId} {xs ys : Posting} (hx : xs.Pairwise (· < ·))
    (hy : ys.Pairwise (· < ·)) : id ∈ inter xs ys ↔ id ∈ xs ∧ id ∈ ys := by
  fun_induction inter xs ys with
  | case1 ys => simp
  | case2 x xs => simp
  | case3 x xs y ys hxy ih =>
    rw [ih hx.of_cons hy, List.mem_cons (b := x)]
    have : x ∉ y :: ys := fun h => UInt32.lt_irrefl x (lt_of_lt_head hxy hy h)
    grind
  | case4 x xs y ys _ hyx ih =>
    rw [ih hx hy.of_cons, List.mem_cons (b := y)]
    have : y ∉ x :: xs := fun h => UInt32.lt_irrefl y (lt_of_lt_head hyx hx h)
    grind
  | case5 x xs y ys hxy hyx ih =>
    obtain rfl := eq_of_not_lt hxy hyx
    rw [List.mem_cons, ih hx.of_cons hy.of_cons, List.mem_cons, List.mem_cons]
    grind

end TrigramGrep.Posting
