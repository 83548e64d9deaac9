import Mathlib.Algebra.BigOperators.Ring.List
import TrigramGrep.Proofs.Regex.Bounds
import TrigramGrep.Proofs.Regex.Language
import TrigramGrep.Regex.Pruned

/-!
# Leaving out what cannot match changes no language

An expression without the parts that match nothing stands for the same byte strings as before.  Each of its
alternations has an alternative, and the bounds of its repetitions are in order if they were so before.
-/

namespace TrigramGrep.Regex

/-- A class without members matches nothing. -/
theorem language_charClass_of_isEmpty {set : CharClass} (h : set.set.isEmpty = true) :
    set.language = 0 := by
  ext w
  refine ⟨fun hw => ?_, fun hw => absurd hw (Language.notMem_zero w)⟩
  have hnone (n : Nat) : set.set.contains n = false := by
    rw [List.isEmpty_iff.mp h]
    rfl
  cases set with
  | chars set =>
    obtain ⟨c, hc, -⟩ := hw
    exact absurd hc (by simp [show CharSet.contains set c.toNat = false from hnone _])
  | bytes set =>
    obtain ⟨b, hb, -⟩ := hw
    exact absurd hb (by simp [show CharSet.contains set b.toNat = false from hnone _])

theorem language_fail : fail.language = 0 := language_charClass_of_isEmpty rfl

/-- The repetition of what matches nothing stands for the empty text if it may be left out. -/
theorem language_repeated_of_zero {min : Nat} {max : Option Nat} {greedy : Bool} {body : Regex}
    (h : body.language = 0) :
    (Regex.repeated min max greedy body).language = if min = 0 then 1 else 0 := by
  ext w
  rw [language, h]
  constructor
  · rintro ⟨n, hmin, -, hw⟩
    cases n with
    | zero =>
      rw [if_pos (Nat.le_zero.mp hmin)]
      exact hw
    | succ n =>
      rw [zero_pow (Nat.succ_ne_zero n)] at hw
      exact absurd hw (Language.notMem_zero w)
  · intro hw
    split at hw
    · next hmin => exact ⟨0, by omega, fun m _ => Nat.zero_le m, hw⟩
    · exact absurd hw (Language.notMem_zero w)

/-- Alternatives that match nothing can be left out. -/
theorem sum_filter_ne_fail (parts : List Regex) :
    ((parts.filter (· ≠ fail)).map language).sum = (parts.map language).sum := by
  induction parts with
  | nil => rfl
  | cons part parts ih =>
    by_cases h : part = fail
    · rw [List.filter_cons_of_neg (by simpa using h), ih, h, List.map_cons, List.sum_cons, language_fail,
        zero_add]
    · rw [List.filter_cons_of_pos (by simpa using h), List.map_cons, List.sum_cons, ih, List.map_cons,
        List.sum_cons]

mutual

theorem language_pruned : (r : Regex) → (pruned r).language = r.language
  | .empty | .look _ | .literal _ => rfl
  | .charClass set => by
    rw [pruned]
    split
    · next h => rw [language_fail, language, language_charClass_of_isEmpty h]
    · rfl
  | .capture index name body => by
    have ih := language_pruned body
    rw [pruned]
    split
    · next h => rw [language_fail, language, ← ih, h, language_fail]
    · exact ih
  | .repeated min max greedy body => by
    have ih := language_pruned body
    rw [pruned]
    split
    · rw [language, ih, language]
    · next h =>
      -- the body fails, so only the repetition zero times has a word
      have hzero : body.language = 0 := by rw [← ih, not_not.mp h, language_fail]
      rw [language_repeated_of_zero hzero]
      split
      · rfl
      · exact language_fail
  | .concat parts => by
    have ih := languages_prunedParts parts
    rw [pruned]
    split
    · next h =>
      -- one part fails, and with it the sequence
      have hzero : 0 ∈ parts.map language := by
        rw [← ih, ← language_fail]
        exact List.mem_map_of_mem h
      rw [language_fail, language, languageAll_eq_prod, List.prod_eq_zero hzero]
    · rw [language, languageAll_eq_prod, ih, language, languageAll_eq_prod]
  | .alternation parts => by
    have ih := languages_prunedParts parts
    -- alternatives that fail add nothing to the sum
    have hsum := sum_filter_ne_fail (prunedParts parts)
    rw [ih] at hsum
    rw [pruned, language, languageAny_eq_sum, ← hsum]
    split
    · next h => rw [language_fail, h]; rfl
    · next h => rw [language, languageAny_eq_sum]

theorem languages_prunedParts :
    (parts : List Regex) → (prunedParts parts).map language = parts.map language
  | [] => rfl
  | part :: parts => by
    rw [prunedParts, List.map_cons, language_pruned part, languages_prunedParts parts, List.map_cons]

end

/-! ## What can be laid out -/

/-- Whether every alternation in a tree has an alternative, and the bounds of every repetition are in
order. -/
def isRegular (r : Regex) : Bool :=
  r.all fun
    | .repeated min max _ _ => max.all (min ≤ ·)
    | .alternation [] => false
    | _ => true

theorem isRegular_concat (parts : List Regex) :
    (Regex.concat parts).isRegular = parts.all isRegular := by
  rw [isRegular, all, allOf_eq_all, Bool.true_and]
  rfl

theorem isRegular_alternation (part : Regex) (parts : List Regex) :
    (Regex.alternation (part :: parts)).isRegular = (part :: parts).all isRegular := by
  rw [isRegular, all, allOf_eq_all, Bool.true_and]
  rfl

mutual

/-- Where the bounds are in order, what is left can be laid out. -/
theorem isRegular_pruned : (r : Regex) → r.hasBounds = true → (pruned r).isRegular = true
  | .empty, _ | .look _, _ | .literal _, _ => rfl
  | .charClass set, _ => by
    rw [pruned]
    split <;> rfl
  | .capture index name body, h => by
    have ih := isRegular_pruned body h
    rw [pruned]
    split
    · rfl
    · exact ih
  | .repeated min max greedy body, h => by
    obtain ⟨hbounds, hbody⟩ := hasBounds_repeated.mp h
    have ih := isRegular_pruned body hbody
    rw [pruned]
    split
    · exact Bool.and_eq_true_iff.mpr ⟨hbounds, ih⟩
    · split <;> rfl
  | .concat parts, h => by
    rw [hasBounds_concat] at h
    rw [pruned]
    split
    · rfl
    · rw [isRegular_concat, List.all_eq_true]
      exact isRegular_prunedParts parts h
  | .alternation parts, h => by
    rw [hasBounds_alternation] at h
    rw [pruned]
    split
    · rfl
    · next hne =>
      cases hparts : (prunedParts parts).filter (· ≠ fail) with
      | nil => exact absurd hparts hne
      | cons part rest =>
        rw [isRegular_alternation, List.all_eq_true, ← hparts]
        exact fun r hr => isRegular_prunedParts parts h r (List.mem_of_mem_filter hr)

theorem isRegular_prunedParts : (parts : List Regex) → (∀ part ∈ parts, part.hasBounds = true) →
    ∀ part ∈ prunedParts parts, part.isRegular = true
  | [], _ => nofun
  | part :: parts, h => by
    rw [prunedParts]
    intro r hr
    rcases List.mem_cons.mp hr with rfl | hr
    · exact isRegular_pruned part (h part List.mem_cons_self)
    · exact isRegular_prunedParts parts (fun r hr => h r (List.mem_cons_of_mem part hr)) r hr

end

end TrigramGrep.Regex
