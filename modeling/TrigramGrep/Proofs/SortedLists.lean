import Mathlib.Data.List.Perm.Subperm
import TrigramGrep.Bytes

/-!
# Sorted lists without repeats

Trigrams of a text, pairs of a run and strings of a set are all brought into the same form: the list is
sorted, and of equal neighbours one is kept.  The form does not depend on what is sorted: no member is
lost, and the result ascends strictly.
-/

namespace TrigramGrep

namespace SortedLists

variable {α : Type} [BEq α]

/-- The loop behind `eraseReps` puts what it has kept in front. -/
private theorem eraseRepsLoop_eq (a : α) (rest kept : List α) :
    List.eraseRepsBy.loop (· == ·) a rest kept =
      kept.reverse ++ List.eraseRepsBy.loop (· == ·) a rest [] := by
  induction rest generalizing a kept with
  | nil => simp [List.eraseRepsBy.loop]
  | cons b rest ih =>
    simp only [List.eraseRepsBy.loop]
    split
    · exact ih a kept
    · rw [ih b (a :: kept), ih b [a]]
      simp

variable [LawfulBEq α]

/-- Of two equal neighbours the first one goes. -/
theorem eraseReps_cons_cons (a b : α) (rest : List α) :
    (a :: b :: rest).eraseReps =
      if a == b then (b :: rest).eraseReps else a :: (b :: rest).eraseReps := by
  simp only [List.eraseReps, List.eraseRepsBy, List.eraseRepsBy.loop]
  cases h : a == b with
  | true => rw [eq_of_beq h]; simp
  | false => simp [eraseRepsLoop_eq b rest [a]]

@[simp] theorem mem_eraseReps {a : α} (l : List α) : a ∈ l.eraseReps ↔ a ∈ l := by
  induction l with
  | nil => simp [List.eraseReps, List.eraseRepsBy]
  | cons b l ih =>
    cases l with
    | nil => simp [List.eraseReps, List.eraseRepsBy, List.eraseRepsBy.loop]
    | cons c rest =>
      rw [eraseReps_cons_cons]
      split
      · next h => rw [ih, eq_of_beq h]; simp
      · rw [List.mem_cons, ih, List.mem_cons (a := a) (b := b)]

/-- In a sorted list all equal members are neighbours, so each is kept once. -/
theorem pairwise_eraseReps {le : α → α → Prop} (antisymm : ∀ a b, le a b → le b a → a = b)
    {l : List α} (h : l.Pairwise le) : l.eraseReps.Pairwise fun a b => le a b ∧ a ≠ b := by
  induction l with
  | nil => simp [List.eraseReps, List.eraseRepsBy]
  | cons a l ih =>
    obtain ⟨ha, hl⟩ := List.pairwise_cons.mp h
    cases l with
    | nil => simp [List.eraseReps, List.eraseRepsBy, List.eraseRepsBy.loop]
    | cons b rest =>
      rw [eraseReps_cons_cons]
      split
      · exact ih hl
      · next hab =>
        refine List.pairwise_cons.mpr ⟨fun c hc => ?_, ih hl⟩
        rw [mem_eraseReps] at hc
        refine ⟨ha c hc, ?_⟩
        -- if `c` were `a`, then `b` would lie between the two
        rintro rfl
        rcases List.mem_cons.mp hc with rfl | hrest
        · simp at hab
        · have hba := (List.pairwise_cons.mp hl).1 a hrest
          exact hab (by simpa using antisymm a b (ha b (by simp)) hba)

/-- Where no member stands twice, none goes. -/
theorem eraseReps_of_nodup {l : List α} (h : l.Nodup) : l.eraseReps = l := by
  induction l with
  | nil => rfl
  | cons a l ih =>
    obtain ⟨ha, hl⟩ := List.nodup_cons.mp h
    cases l with
    | nil => rfl
    | cons b rest =>
      have hab : ¬(a == b) = true := fun hab => ha (eq_of_beq hab ▸ List.mem_cons_self)
      rw [eraseReps_cons_cons, if_neg hab, ih hl]

/-- What is sorted and freed of repeats ascends strictly. -/
theorem pairwise_eraseReps_mergeSort (le : α → α → Bool)
    (trans : ∀ a b c, le a b = true → le b c = true → le a c = true)
    (total : ∀ a b, (le a b || le b a) = true)
    (antisymm : ∀ a b, le a b = true → le b a = true → a = b) (l : List α) :
    (l.mergeSort le).eraseReps.Pairwise fun a b => le a b = true ∧ a ≠ b :=
  pairwise_eraseReps antisymm (List.pairwise_mergeSort trans total l)

omit [BEq α] [LawfulBEq α] in
/-- Where keys ascend strictly, a member is known by its key. -/
theorem eq_of_key_eq (key : α → UInt32) {l : List α} (h : l.Pairwise fun a b => key a < key b)
    {a b : α} (ha : a ∈ l) (hb : b ∈ l) (hkey : key a = key b) : a = b := by
  induction l with
  | nil => simp at ha
  | cons c l ih =>
    obtain ⟨hc, hl⟩ := List.pairwise_cons.mp h
    have hlt : ∀ d ∈ l, key d ≠ key c := fun d hd heq =>
      UInt32.lt_irrefl (key c) (heq ▸ hc d hd)
    rcases List.mem_cons.mp ha with rfl | hal <;> rcases List.mem_cons.mp hb with rfl | hbl
    · rfl
    · exact absurd hkey.symm (hlt b hbl)
    · exact absurd hkey (hlt a hal)
    · exact ih hl hal hbl

omit [BEq α] [LawfulBEq α] in
/-- So the first member with its key is the member itself. -/
theorem find?_key_eq (key : α → UInt32) {l : List α} (h : l.Pairwise fun a b => key a < key b) {a : α}
    (ha : a ∈ l) : (l.find? fun b => key b = key a) = some a := by
  cases hfind : l.find? fun b => key b = key a with
  | none =>
    have := List.find?_eq_none.mp hfind a ha
    simp at this
  | some b =>
    have hkey : key b = key a := by simpa using List.find?_some hfind
    rw [eq_of_key_eq key h (List.mem_of_find?_eq_some hfind) ha hkey]

/-- Different numbers below a bound are no more than the bound. -/
theorem length_le_of_nodup {numbers : List UInt32} {bound : Nat} (hnodup : numbers.Nodup)
    (hbound : ∀ n ∈ numbers, n.toNat < bound) : numbers.length ≤ bound := by
  have hnodup : (numbers.map UInt32.toNat).Nodup :=
    List.pairwise_map.mpr (hnodup.imp fun hne heq => hne (UInt32.toNat_inj.mp heq))
  have hsubset : numbers.map UInt32.toNat ⊆ List.range bound := by
    intro n hn
    obtain ⟨number, hnumber, rfl⟩ := List.mem_map.mp hn
    exact List.mem_range.mpr (hbound number hnumber)
  have hlength := (hnodup.subperm hsubset).length_le
  rwa [List.length_map, List.length_range] at hlength

/-- Numbers that ascend strictly are no more than there are words of 32 bits. -/
theorem length_le_of_ascending {numbers : List UInt32} (h : numbers.Pairwise (· < ·)) :
    numbers.length ≤ UInt32.size :=
  length_le_of_nodup (h.imp UInt32.ne_of_lt) fun n _ => n.toNat_lt

end SortedLists

end TrigramGrep
