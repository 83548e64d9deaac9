import TrigramGrep.Regex.Build

/-!
# The bounds of repetitions

A repetition whose least number of copies is above its largest one stands for nothing, but a program for it
would still look for the least number.  No such repetition comes about when expressions are built from parts
without one.
-/

namespace TrigramGrep.Regex

/-- Whether the bounds of every repetition in a tree are in order. -/
def hasBounds (r : Regex) : Bool :=
  r.all fun
    | .repeated min max _ _ => max.all (min ≤ ·)
    | _ => true

theorem allOf_eq_all (p : Regex → Bool) (parts : List Regex) : allOf p parts = parts.all (all p) := by
  induction parts with
  | nil => rfl
  | cons part parts ih => rw [allOf, ih, List.all_cons]

theorem hasBounds_repeated {min : Nat} {max : Option Nat} {greedy : Bool} {body : Regex} :
    (Regex.repeated min max greedy body).hasBounds = true ↔
      max.all (min ≤ ·) = true ∧ body.hasBounds = true := by
  rw [hasBounds, all, Bool.and_eq_true]
  rfl

theorem hasBounds_concat {parts : List Regex} :
    (Regex.concat parts).hasBounds = true ↔ ∀ part ∈ parts, part.hasBounds = true := by
  rw [hasBounds, all, allOf_eq_all, Bool.true_and, List.all_eq_true]
  rfl

theorem hasBounds_alternation {parts : List Regex} :
    (Regex.alternation parts).hasBounds = true ↔ ∀ part ∈ parts, part.hasBounds = true := by
  rw [hasBounds, all, allOf_eq_all, Bool.true_and, List.all_eq_true]
  rfl

/-! ## Leaves and repetitions -/

theorem hasBounds_ofLiteral (bytes : Bytes) : (ofLiteral bytes).hasBounds = true := by
  unfold ofLiteral
  split <;> rfl

theorem hasBounds_ofClass (set : CharClass) : (ofClass set).hasBounds = true := by
  unfold ofClass
  split
  · split <;> rfl
  · split <;> rfl
  · rfl
  · rfl

theorem hasBounds_ofRepetition {min : Nat} {max : Option Nat} {greedy : Bool} {body : Regex}
    (hbounds : max.all (min ≤ ·) = true) (hbody : body.hasBounds = true) :
    (ofRepetition min max greedy body).hasBounds = true := by
  unfold ofRepetition
  dsimp only
  generalize hlow : (if body.maxLength = some 0 then Nat.min min 1 else min) = low
  generalize hhigh : (if body.maxLength = some 0 then some (Nat.min (max.getD 1) 1) else max) = high
  -- a body that only matches the empty text is taken at most once, which keeps the order
  have hcut : high.all (low ≤ ·) = true := by
    subst hlow hhigh
    split
    · cases max with
      | none => exact decide_eq_true (Nat.min_le_right min 1)
      | some max =>
        have : min ≤ max := of_decide_eq_true hbounds
        exact decide_eq_true (Nat.le_min.mpr ⟨Nat.le_trans (Nat.min_le_left min 1) this, Nat.min_le_right min 1⟩)
    · exact hbounds
  split
  · rfl
  · split
    · exact hbody
    · exact hasBounds_repeated.mpr ⟨hcut, hbody⟩

/-! ## Sequences -/

theorem hasBounds_joinLiterals {parts : List Regex} (h : ∀ part ∈ parts, part.hasBounds = true) :
    ∀ part ∈ joinLiterals parts, part.hasBounds = true := by
  induction parts with
  | nil => nofun
  | cons first parts ih =>
    have ih := ih fun part hpart => h part (List.mem_cons_of_mem first hpart)
    intro part hpart
    cases first with
    | literal s =>
      rw [joinLiterals] at hpart
      split at hpart
      · next t rest heq =>
        rcases List.mem_cons.mp hpart with rfl | hpart
        · rfl
        · exact ih part (heq ▸ List.mem_cons_of_mem _ hpart)
      · rcases List.mem_cons.mp hpart with rfl | hpart
        · rfl
        · exact ih part hpart
    | _ =>
      rcases List.mem_cons.mp hpart with rfl | hpart
      · exact h _ List.mem_cons_self
      · exact ih part hpart

theorem hasBounds_factors {r : Regex} (h : r.hasBounds = true) :
    ∀ part ∈ factors r, part.hasBounds = true := by
  unfold factors
  split
  · exact hasBounds_concat.mp h
  · nofun
  · intro part hpart
    rwa [List.mem_singleton.mp hpart]

theorem hasBounds_ofConcat {parts : List Regex} (h : ∀ part ∈ parts, part.hasBounds = true) :
    (ofConcat parts).hasBounds = true := by
  have hfactors : ∀ part ∈ parts.flatMap factors, part.hasBounds = true := by
    intro part hpart
    obtain ⟨r, hr, hpart⟩ := List.mem_flatMap.mp hpart
    exact hasBounds_factors (h r hr) part hpart
  have hjoined := hasBounds_joinLiterals hfactors
  unfold ofConcat
  split
  · rfl
  · next part heq => exact hjoined part (heq ▸ List.mem_cons_self)
  · exact hasBounds_concat.mpr hjoined

/-! ## Alternatives -/

theorem hasBounds_alternatives {r : Regex} (h : r.hasBounds = true) :
    ∀ part ∈ alternatives r, part.hasBounds = true := by
  unfold alternatives
  split
  · exact hasBounds_alternation.mp h
  · intro part hpart
    rwa [List.mem_singleton.mp hpart]

theorem mem_of_mem_commonStart {part : Regex} {as bs : List Regex} (h : part ∈ commonStart as bs) :
    part ∈ as := by
  fun_induction commonStart as bs with
  | case1 a as bs ih =>
    rcases List.mem_cons.mp h with rfl | h
    · exact List.mem_cons_self
    · exact List.mem_cons_of_mem _ (ih h)
  | case2 => cases h
  | case3 => cases h

theorem mem_of_mem_foldl_commonStart {part : Regex} {first : List Regex} (others : List (List Regex))
    (h : part ∈ others.foldl commonStart first) : part ∈ first := by
  induction others generalizing first with
  | nil => exact h
  | cons other others ih => exact mem_of_mem_commonStart (ih h)

/-- Sequences are those of the parts, and their members are members of the parts. -/
theorem hasBounds_of_sequences {parts : List Regex} {sequences : List (List Regex)}
    (h : ∀ part ∈ parts, part.hasBounds = true) (hsequences : parts.mapM sequence? = some sequences) :
    ∀ sequence ∈ sequences, ∀ part ∈ sequence, part.hasBounds = true := by
  induction parts generalizing sequences with
  | nil =>
    cases hsequences
    nofun
  | cons first parts ih =>
    rw [List.mapM_cons] at hsequences
    obtain ⟨head, hhead, hsequences⟩ := Option.bind_eq_some_iff.mp hsequences
    obtain ⟨tail, htail, hsequences⟩ := Option.bind_eq_some_iff.mp hsequences
    cases hsequences
    intro sequence hsequence
    rcases List.mem_cons.mp hsequence with rfl | hsequence
    · unfold sequence? at hhead
      split at hhead
      · cases hhead
        exact hasBounds_concat.mp (h _ List.mem_cons_self)
      · cases hhead
    · exact ih (fun part hpart => h part (List.mem_cons_of_mem first hpart)) htail sequence hsequence

/-- The beginning that sequences share is made of their parts, and so is what is left of each. -/
theorem hasBounds_of_shared {parts start : List Regex} {rests : List (List Regex)}
    (h : ∀ part ∈ parts, part.hasBounds = true) (hshared : shared? parts = some (start, rests)) :
    (∀ part ∈ start, part.hasBounds = true) ∧
      ∀ rest ∈ rests, ∀ part ∈ rest, part.hasBounds = true := by
  unfold shared? at hshared
  split at hshared
  · next first others hsequences =>
    have hparts := hasBounds_of_sequences h hsequences
    dsimp only at hshared
    split at hshared
    · cases hshared
    · cases hshared
      refine ⟨fun part hpart => ?_, fun rest hrest part hpart => ?_⟩
      · exact hparts first List.mem_cons_self part (mem_of_mem_foldl_commonStart others hpart)
      · obtain ⟨sequence, hsequence, rfl⟩ := List.mem_map.mp hrest
        exact hparts sequence hsequence part (List.mem_of_mem_drop hpart)
  · cases hshared

theorem hasBounds_ofAlternationIn (steps : Nat) {parts : List Regex}
    (h : ∀ part ∈ parts, part.hasBounds = true) :
    (ofAlternationIn steps parts).hasBounds = true := by
  induction steps generalizing parts with
  | zero => exact hasBounds_alternation.mpr h
  | succ steps ih =>
    have hparts : ∀ part ∈ parts.flatMap alternatives, part.hasBounds = true := by
      intro part hpart
      obtain ⟨r, hr, hpart⟩ := List.mem_flatMap.mp hpart
      exact hasBounds_alternatives (h r hr) part hpart
    unfold ofAlternationIn
    split
    · rfl
    · next part heq => exact hparts part (heq ▸ List.mem_cons_self)
    · split
      · exact hasBounds_ofClass _
      · split
        · next start rests hshared =>
          -- what is left of the sequences is put together with one step less
          obtain ⟨hstart, hrests⟩ := hasBounds_of_shared hparts hshared
          refine hasBounds_ofConcat fun part hpart => ?_
          rcases List.mem_append.mp hpart with hpart | hpart
          · exact hstart part hpart
          · rw [List.mem_singleton.mp hpart]
            refine ih fun part hpart => ?_
            obtain ⟨rest, hrest, rfl⟩ := List.mem_map.mp hpart
            exact hasBounds_ofConcat (hrests rest hrest)
        · exact hasBounds_alternation.mpr hparts

theorem hasBounds_ofAlternation {parts : List Regex} (h : ∀ part ∈ parts, part.hasBounds = true) :
    (ofAlternation parts).hasBounds = true :=
  hasBounds_ofAlternationIn _ h

end TrigramGrep.Regex
