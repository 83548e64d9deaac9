import TrigramGrep.Query

/-!
# Truth of queries that are built from others

`Query.conj` and `Query.disj` apply laws, flatten and drop repeats, and none of this changes what the
query says.  The statements hold for all queries, also for nodes with constants inside or without parts.
-/

namespace TrigramGrep.Query

variable (member : Trigram → Bool)

/-! ## Nodes -/

theorem holdsAll_eq_all (parts : List Query) :
    holdsAll member parts = parts.all (holds member) := by
  induction parts with
  | nil => rfl
  | cons part parts ih => rw [holdsAll, ih, List.all_cons]

theorem holdsAny_eq_any (parts : List Query) :
    holdsAny member parts = parts.any (holds member) := by
  induction parts with
  | nil => rfl
  | cons part parts ih => rw [holdsAny, ih, List.any_cons]

@[simp] theorem holds_always : holds member .always = true := by rw [holds]

@[simp] theorem holds_never : holds member .never = false := by rw [holds]

@[simp] theorem holds_has (t : Trigram) : holds member (.has t) = member t := by rw [holds]

@[simp] theorem holds_all (parts : List Query) :
    holds member (.all parts) = parts.all (holds member) := by
  rw [holds, holdsAll_eq_all]

@[simp] theorem holds_any (parts : List Query) :
    holds member (.any parts) = parts.any (holds member) := by
  rw [holds, holdsAny_eq_any]

/-! ## Merged parts -/

theorem mem_foldl_addPart (q : Query) (parts others : List Query) :
    q ∈ others.foldl addPart parts ↔ q ∈ parts ∨ q ∈ others := by
  induction others generalizing parts with
  | nil => simp
  | cons part others ih =>
    rw [List.foldl_cons, ih, addPart]
    split <;> grind

/-- Dropping repeats loses no part. -/
@[simp] theorem mem_mergeParts (q : Query) (as bs : List Query) :
    q ∈ mergeParts as bs ↔ q ∈ as ∨ q ∈ bs := by
  simp [mergeParts, mem_foldl_addPart]

theorem all_mergeParts (as bs : List Query) :
    (mergeParts as bs).all (holds member) = (as.all (holds member) && bs.all (holds member)) := by
  rw [Bool.eq_iff_iff]
  simp only [List.all_eq_true, mem_mergeParts, Bool.and_eq_true]
  grind

theorem any_mergeParts (as bs : List Query) :
    (mergeParts as bs).any (holds member) = (as.any (holds member) || bs.any (holds member)) := by
  rw [Bool.eq_iff_iff]
  simp only [List.any_eq_true, mem_mergeParts, Bool.or_eq_true]
  grind

/-- A single part stands for a conjunction of it. -/
theorem holds_node_all (parts : List Query) :
    holds member (node .all parts) = parts.all (holds member) := by
  unfold node
  split
  · simp
  · exact holds_all member parts

/-- A single part stands for a disjunction of it. -/
theorem holds_node_any (parts : List Query) :
    holds member (node .any parts) = parts.any (holds member) := by
  unfold node
  split
  · simp
  · exact holds_any member parts

theorem all_conjuncts (q : Query) : q.conjuncts.all (holds member) = holds member q := by
  cases q <;> simp [conjuncts]

theorem any_disjuncts (q : Query) : q.disjuncts.any (holds member) = holds member q := by
  cases q <;> simp [disjuncts]

/-! ## Operations -/

/-- `conj` means both. -/
@[simp] theorem holds_conj (a b : Query) :
    holds member (a.conj b) = (holds member a && holds member b) := by
  unfold conj
  split
  · simp
  · simp
  · simp
  · simp
  · rw [holds_node_all, all_mergeParts, all_conjuncts, all_conjuncts]

/-- `disj` means one or both. -/
@[simp] theorem holds_disj (a b : Query) :
    holds member (a.disj b) = (holds member a || holds member b) := by
  unfold disj
  split
  · simp
  · simp
  · simp
  · simp
  · rw [holds_node_any, any_mergeParts, any_disjuncts, any_disjuncts]

theorem holds_foldl_conj (q : Query) (ts : List Trigram) :
    holds member (ts.foldl (fun q t => q.conj (.has t)) q) = (holds member q && ts.all member) := by
  induction ts generalizing q with
  | nil => simp
  | cons t ts ih => rw [List.foldl_cons, ih, holds_conj, holds_has, List.all_cons, Bool.and_assoc]

/-- `hasAll` asks for every trigram of its list. -/
@[simp] theorem holds_hasAll (ts : List Trigram) :
    holds member (hasAll ts) = ts.all member := by
  rw [hasAll, holds_foldl_conj, holds_always, Bool.true_and]

end TrigramGrep.Query
