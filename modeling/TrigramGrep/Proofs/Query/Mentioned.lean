import TrigramGrep.Proofs.Query.Truth
import TrigramGrep.Proofs.SortedLists

/-!
# What the truth of a query depends on

A query speaks only of the trigrams that it mentions, and it speaks of them without negation: if of those that
it mentions no one is lost, it goes on to hold (`Query.holds_mono`).  That its truth depends on nothing else, and
that a larger set of trigrams never makes it false, are two cases of this.

Nothing is asked of the shape of a query; nodes may be empty, hold constants or repeat their parts.
-/

namespace TrigramGrep.Query

variable {member other : Trigram → Bool} {t : Trigram} {parts : List Query} {q : Query}

/-! ## Mentioned trigrams -/

/-- Induction on a query: for a node, its parts are known about. -/
@[elab_as_elim] theorem induction_parts {motive : Query → Prop} (always : motive .always)
    (never : motive .never) (has : ∀ t, motive (.has t))
    (all : ∀ parts, (∀ part ∈ parts, motive part) → motive (.all parts))
    (any : ∀ parts, (∀ part ∈ parts, motive part) → motive (.any parts)) (q : Query) : motive q :=
  match q with
  | .always => always
  | .never => never
  | .has t => has t
  | .all parts => all parts fun part _ => induction_parts always never has all any part
  | .any parts => any parts fun part _ => induction_parts always never has all any part

theorem mem_mentionedIn : t ∈ mentionedIn parts ↔ ∃ part ∈ parts, t ∈ part.mentioned := by
  induction parts with
  | nil => simp [mentionedIn]
  | cons part parts ih => rw [mentionedIn, List.mem_append, ih, List.exists_mem_cons_iff]

@[simp] theorem mem_mentioned_has {s : Trigram} : t ∈ (has s).mentioned ↔ t = s := by simp [mentioned]

@[simp] theorem mem_mentioned_all : t ∈ (all parts).mentioned ↔ ∃ part ∈ parts, t ∈ part.mentioned := by
  rw [mentioned, mem_mentionedIn]

@[simp] theorem mem_mentioned_any : t ∈ (any parts).mentioned ↔ ∃ part ∈ parts, t ∈ part.mentioned := by
  rw [mentioned, mem_mentionedIn]

/-- The list of the distinct trigrams has just those that are mentioned. -/
theorem mem_trigrams : t ∈ q.trigrams ↔ t ∈ q.mentioned := by simp [trigrams]

/-! ## Truth -/

/-- A query that holds goes on to hold as long as none of the trigrams that it mentions is lost. -/
theorem holds_mono (h : ∀ t ∈ q.mentioned, member t = true → other t = true)
    (hq : holds member q = true) : holds other q = true := by
  induction q using induction_parts with
  | always => exact holds_always other
  | never => rw [holds_never] at hq; cases hq
  | has t =>
    rw [holds_has] at hq ⊢
    exact h t (mem_mentioned_has.mpr rfl) hq
  | all parts ih =>
    rw [holds_all, List.all_eq_true] at hq ⊢
    intro part hpart
    exact ih part hpart (fun t ht => h t (mem_mentioned_all.mpr ⟨part, hpart, ht⟩)) (hq part hpart)
  | any parts ih =>
    rw [holds_any, List.any_eq_true] at hq ⊢
    obtain ⟨part, hpart, hholds⟩ := hq
    exact ⟨part, hpart, ih part hpart (fun t ht => h t (mem_mentioned_any.mpr ⟨part, hpart, ht⟩)) hholds⟩

/-- Two sets with the same of the mentioned trigrams are the same to a query. -/
theorem holds_congr (h : ∀ t ∈ q.mentioned, member t = other t) : holds member q = holds other q := by
  rw [Bool.eq_iff_iff]
  exact ⟨holds_mono fun t ht hmember => h t ht ▸ hmember, holds_mono fun t ht hother => h t ht ▸ hother⟩

/-- What can be read off the top of a query follows from it. -/
theorem holds_required (h : holds member q = true) : holds member q.required = true := by
  cases q with
  | always => exact h
  | never => exact h
  | has t => exact h
  | any parts => exact holds_always member
  | all parts =>
    rw [holds_all, List.all_eq_true] at h
    rw [required, holds_hasAll, List.all_eq_true]
    intro t ht
    obtain ⟨part, hpart, htrigram⟩ := List.mem_filterMap.mp ht
    have hhas : part = .has t := by
      cases part with
      | has s => exact congrArg has (Option.some.inj htrigram)
      | always | never | all | any => cases htrigram
    rw [← holds_has member t, ← hhas]
    exact h part hpart

/-- **Queries keep their meaning while they are built and read.** Of any two queries the conjunction holds when
both do and the disjunction when one does, `hasAll` asks for every trigram of its list, and what is read off the
top of a query follows from it.  The truth of a query depends only on which of its trigrams are there, and more
trigrams never make a query false that holds. -/
theorem holds_built_and_read (member : Trigram → Bool) (a b : Query) (ts : List Trigram) :
    (holds member (a.conj b) = true ↔ holds member a = true ∧ holds member b = true) ∧
      (holds member (a.disj b) = true ↔ holds member a = true ∨ holds member b = true) ∧
      (holds member (hasAll ts) = true ↔ ∀ t ∈ ts, member t = true) ∧
      (holds member a = true → holds member a.required = true) ∧
      (∀ other, (∀ t ∈ a.trigrams, member t = other t) → holds member a = holds other a) ∧
      (∀ other, (∀ t, member t = true → other t = true) →
        holds member a = true → holds other a = true) := by
  refine ⟨?_, ?_, ?_, holds_required, fun other h => ?_, fun other h => ?_⟩
  · rw [holds_conj, Bool.and_eq_true]
  · rw [holds_disj, Bool.or_eq_true]
  · rw [holds_hasAll, List.all_eq_true]
  · exact holds_congr fun t ht => h t (mem_trigrams.mpr ht)
  · exact holds_mono fun t _ => h t

/-- The query has a repeated part, an empty conjunction and a constant inside; of its trigrams the one that it
needs in any case is there, and one of the others. -/
theorem holds_built_and_read_nested :
    let q : Query := .all [.has 1, .all [], .any [.has 2, .never, .has 3, .has 3], .has 1]
    let member : Trigram → Bool := fun t => t == 1 || t == 3
    let other : Trigram → Bool := fun t => t == 1 || t == 3 || t == 9
    holds member q = true ∧ holds member q.required = true ∧
      (∀ t ∈ q.trigrams, member t = other t) ∧ holds member q = holds other q ∧
      (∀ t, member t = true → other t = true) ∧ holds other q = true := by
  intro q member other
  obtain ⟨-, -, -, hrequired, hsame, hmore⟩ := holds_built_and_read member q .never []
  have hholds : holds member q = true := by decide
  have hagree : ∀ t ∈ q.trigrams, member t = other t := by
    have hmentioned : ∀ t ∈ q.mentioned, member t = other t := by simp [q, member, other, mentioned, mentionedIn]
    exact fun t ht => hmentioned t (mem_trigrams.mp ht)
  have hlarger : ∀ t, member t = true → other t = true := fun t ht => Bool.or_eq_true_iff.mpr (.inl ht)
  exact ⟨hholds, hrequired hholds, hagree, hsame other hagree, hlarger, hmore other hlarger hholds⟩

end TrigramGrep.Query
