import TrigramGrep.Proofs.SortedLists
import TrigramGrep.Trigram

/-!
# The windows of a text

A trigram occurs in a text when its three bytes stand next to one another somewhere in it.  So the
trigrams of a part are trigrams of the whole, and sorting them loses none.
-/

namespace TrigramGrep.Trigram

theorem windows_cons_cons_cons (a b c : UInt8) (rest : Bytes) :
    windows (a :: b :: c :: rest) = ofBytes a b c :: windows (b :: c :: rest) := by
  simp [windows]

theorem windows_eq_nil {text : Bytes} (h : text.length < 3) : windows text = [] := by
  match text, h with
  | [], _ => rfl
  | [_], _ => rfl
  | [_, _], _ => rfl

/-- A trigram of a text is made of three neighbouring bytes of it. -/
theorem mem_windows_iff {t : Trigram} {text : Bytes} :
    t ∈ windows text ↔ ∃ a b c, [a, b, c] <:+: text ∧ t = ofBytes a b c := by
  match text with
  | [] | [_] | [_, _] =>
    rw [windows_eq_nil (by simp)]
    simp only [List.not_mem_nil, false_iff]
    rintro ⟨a, b, c, h, -⟩
    simpa using h.length_le
  | a :: b :: c :: rest =>
    -- the window at the front is either the one of the trigram, or it lies further behind
    have ih : t ∈ windows (b :: c :: rest) ↔ ∃ x y z, [x, y, z] <:+: b :: c :: rest ∧ t = ofBytes x y z :=
      mem_windows_iff
    rw [windows_cons_cons_cons, List.mem_cons, ih]
    have hparts (x y z : UInt8) : [x, y, z] <:+: a :: b :: c :: rest ↔
        [x, y, z] <+: a :: b :: c :: rest ∨ [x, y, z] <:+: b :: c :: rest := List.infix_cons_iff
    simp only [hparts]
    constructor
    · rintro (rfl | ⟨x, y, z, h, rfl⟩)
      · exact ⟨a, b, c, .inl ⟨rest, rfl⟩, rfl⟩
      · exact ⟨x, y, z, .inr h, rfl⟩
    · rintro ⟨x, y, z, h | h, rfl⟩
      · obtain ⟨_, e⟩ := h
        simp only [List.cons_append, List.nil_append, List.cons.injEq] at e
        simp [e]
      · exact .inr ⟨x, y, z, h, rfl⟩

/-- A part of a text has no other trigrams than the text. -/
theorem mem_windows_of_infix {t : Trigram} {part text : Bytes} (h : part <:+: text)
    (ht : t ∈ windows part) : t ∈ windows text := by
  obtain ⟨a, b, c, habc, rfl⟩ := mem_windows_iff.mp ht
  exact mem_windows_iff.mpr ⟨a, b, c, habc.trans h, rfl⟩

/-- The windows of two texts in a row are those of the two and those across the cut, which lie within two bytes of
it on both sides. -/
theorem mem_windows_append {t : Trigram} (u v : Bytes) :
    t ∈ windows (u ++ v) ↔
      t ∈ windows u ∨ t ∈ windows v ∨ t ∈ windows (u.drop (u.length - 2) ++ v.take 2) := by
  have hshort (l : Bytes) (h : l.length < 3) : t ∉ windows l := by
    rw [windows_eq_nil h]
    exact List.not_mem_nil
  match u with
  | [] => simp [hshort [], hshort (v.take 2) (Nat.lt_succ_of_le (List.length_take_le 2 v))]
  | [a] =>
    match v with
    | [] | [b] => simp [windows]
    | b :: c :: rest => simp [windows, or_comm]
  | [a, b] =>
    match v with
    | [] => simp [windows]
    | [c] => simp [windows]
    | c :: d :: rest => simp [windows_cons_cons_cons, windows_eq_nil, or_comm, or_assoc]
  | a :: b :: c :: rest =>
    -- the first window is one of the left text, and the cut of what is left is the same
    have ih := mem_windows_append (t := t) (b :: c :: rest) v
    have hdrop : (a :: b :: c :: rest).drop ((a :: b :: c :: rest).length - 2) =
        (b :: c :: rest).drop ((b :: c :: rest).length - 2) := rfl
    rw [hdrop, List.cons_append, List.cons_append, List.cons_append, windows_cons_cons_cons, windows_cons_cons_cons,
      List.mem_cons, List.mem_cons, or_assoc]
    exact or_congr_right ih

@[simp] theorem mem_distinct {t : Trigram} {text : Bytes} : t ∈ distinct text ↔ t ∈ windows text := by
  simp [distinct]

/-- The trigrams of a text ascend strictly. -/
theorem pairwise_distinct (text : Bytes) : (distinct text).Pairwise (· < ·) := by
  have hsorted := SortedLists.pairwise_eraseReps_mergeSort (fun s t : Trigram => decide (s ≤ t))
    (fun a b c hab hbc => by simpa using UInt32.le_trans (by simpa using hab) (by simpa using hbc))
    (fun a b => by simpa using UInt32.le_total a b)
    (fun a b hab hba => UInt32.le_antisymm (by simpa using hab) (by simpa using hba)) (windows text)
  refine hsorted.imp fun {s t} ⟨hle, hne⟩ => ?_
  exact UInt32.lt_of_le_of_ne (by simpa using hle) hne

end TrigramGrep.Trigram
