import TrigramGrep.Index.Execute
import TrigramGrep.Proofs.Except
import TrigramGrep.Proofs.Index.Postings
import TrigramGrep.Proofs.Posting
import TrigramGrep.Proofs.Query.Mentioned

/-!
# The files that a query leaves are those that it holds for

An index can be damaged, so the lists of some trigrams may be unreadable.  An answer must not depend on
them: it is an answer for every way of filling them in (`Reader.Completion`).  When a query is executed,
the reader stops early, leaves out parts that say nothing and takes trigrams first, and still an answer is
the ascending list of the files that the query holds for.

## Shape of the proof

While a conjunction narrows its candidates, `Reader.Narrowed` says that the candidates are the files with
all parts taken so far; no candidates yet means that nothing has been asked.  A walk that ends early with no
candidate is right because the parts that it leaves out can only narrow further.  Disjunctions carry the
same statement with the parts of which one holds.
-/

namespace TrigramGrep.Index.Reader

open Query (mem_trigrams)

variable {r : Reader}

/-! ## Answers -/

/-- An assignment of lists to trigrams: those of the reader where it can read them, and otherwise any
ascending lists of files. -/
structure Completion (r : Reader) (files : Trigram → Posting) : Prop where
  eq_of_posting : ∀ t ids, r.posting t = .ok ids → files t = ids
  pairwise : ∀ t fault, r.posting t = .error fault → (files t).Pairwise (· < ·)
  lt_fileCount : ∀ t fault, r.posting t = .error fault → ∀ id ∈ files t, id.toNat < r.fileCount

/-- Whether a query holds of a file, going by assigned lists. -/
def holdsFor (files : Trigram → Posting) (id : FileId) (q : Query) : Bool :=
  q.holds fun t => decide (id ∈ files t)

/-- A list holds just the files with a property, ascending. -/
def Lists (r : Reader) (ids : Posting) (p : FileId → Bool) : Prop :=
  ids.Pairwise (· < ·) ∧ ∀ id, id ∈ ids ↔ id.toNat < r.fileCount ∧ p id = true

/-- Candidates are just the files with a property; without candidates, all files have it. -/
def Narrowed (r : Reader) (candidates : Option Posting) (p : FileId → Bool) : Prop :=
  match candidates with
  | none => ∀ id, p id = true
  | some ids => r.Lists ids p

variable {files : Trigram → Posting} {p q : FileId → Bool}

theorem lists_allFiles (hp : ∀ id, p id = true) : r.Lists r.allFiles p :=
  ⟨r.pairwise_allFiles, fun id => by simp [mem_allFiles, hp id]⟩

theorem Lists.congr {ids : Posting} (h : r.Lists ids p) (hpq : ∀ id, p id = q id) : r.Lists ids q := by
  rwa [← funext hpq]

theorem Lists.inter {xs ys : Posting} (hx : r.Lists xs p) (hy : r.Lists ys q) :
    r.Lists (xs.inter ys) fun id => p id && q id := by
  refine ⟨Posting.pairwise_inter hx.1 ys, fun id => ?_⟩
  rw [Posting.mem_inter hx.1 hy.1, hx.2, hy.2, Bool.and_eq_true]
  grind

theorem Lists.union {xs ys : Posting} (hx : r.Lists xs p) (hy : r.Lists ys q) :
    r.Lists (xs.union ys) fun id => p id || q id := by
  refine ⟨Posting.pairwise_union hx.1 hy.1, fun id => ?_⟩
  rw [Posting.mem_union, hx.2, hy.2, Bool.or_eq_true]
  grind

/-- Nothing is left of no candidates, whatever else is asked. -/
theorem Lists.nil_of_imp (h : r.Lists [] p) (hqp : ∀ id, q id = true → p id = true) :
    r.Lists [] q := by
  refine ⟨.nil, fun id => ⟨nofun, fun ⟨hid, hq⟩ => ?_⟩⟩
  exact absurd ((h.2 id).mpr ⟨hid, hqp id hq⟩) List.not_mem_nil

/-- A list that can be read is the answer to its trigram. -/
theorem Completion.lists_posting (hfiles : r.Completion files) {t : Trigram} {ids : Posting}
    (h : r.posting t = .ok ids) : r.Lists ids fun id => decide (id ∈ files t) := by
  obtain ⟨hsorted, hlt⟩ := posting_eq_ok h
  refine ⟨hsorted, fun id => ?_⟩
  rw [hfiles.eq_of_posting t ids h, decide_eq_true_eq]
  exact ⟨fun hid => ⟨hlt id hid, hid⟩, And.right⟩

/-! ## Conjunctions -/

/-- Candidates together with one more list. -/
theorem Narrowed.inter {candidates : Option Posting} {ids : Posting}
    (h : r.Narrowed candidates p) (hids : r.Lists ids q) :
    r.Lists (candidates.elim ids (·.inter ids)) fun id => p id && q id := by
  cases candidates with
  | none => exact hids.congr fun id => by rw [h id, Bool.true_and]
  | some list => exact Lists.inter h hids

theorem lists_postingAnd (hfiles : r.Completion files) {list ids : Posting} {t : Trigram}
    (hlist : r.Lists list p) (h : r.postingAnd list t = .ok ids) :
    r.Lists ids fun id => p id && decide (id ∈ files t) := by
  unfold postingAnd at h
  split at h
  · next hempty =>
    obtain rfl : list = [] := by simpa using hempty
    obtain rfl : [] = ids := by simpa using h
    exact hlist.nil_of_imp fun id hid => (Bool.and_eq_true _ _ ▸ hid).1
  · split at h
    · cases h
    · next found hfound =>
      obtain rfl : list.inter found = ids := by simpa using h
      exact hlist.inter (hfiles.lists_posting hfound)

/-- One step of a conjunction: a list is read, and if nothing is left, nothing will be left in the end,
whatever else is asked. -/
theorem narrowed_of_step {read : Except ReadFault Posting}
    {proceed : Posting → Except ReadFault (Option Posting)} {result : Option Posting}
    (hread : ∀ next, read = .ok next → r.Lists next p)
    (hproceed : ∀ next, r.Lists next p → proceed next = .ok result →
      r.Narrowed result fun id => p id && q id)
    (h : (read >>= fun next => if next.isEmpty then .ok (some []) else proceed next) = .ok result) :
    r.Narrowed result fun id => p id && q id := by
  obtain ⟨next, hr, h⟩ := bind_eq_ok_iff.mp h
  have hnext := hread next hr
  split at h
  · next hempty =>
    obtain rfl : next = [] := by simpa using hempty
    obtain rfl : some [] = result := by simpa using h
    exact hnext.nil_of_imp fun id hid => (Bool.and_eq_true _ _ ▸ hid).1
  · exact hproceed next hnext h

/-- What a list of candidates and the posting list of a trigram have in common; the posting list itself
where there are no candidates yet. -/
def narrowBy (r : Reader) (t : Trigram) : Option Posting → Except ReadFault Posting
  | some list => r.postingAnd list t
  | none => r.posting t

theorem lists_narrowBy (hfiles : r.Completion files) {t : Trigram} {candidates : Option Posting}
    {ids : Posting} (hcandidates : r.Narrowed candidates p) (h : r.narrowBy t candidates = .ok ids) :
    r.Lists ids fun id => p id && holdsFor files id (.has t) := by
  cases candidates with
  | some list => simpa [holdsFor] using lists_postingAnd hfiles hcandidates h
  | none =>
    refine (hfiles.lists_posting h).congr fun id => ?_
    simp [holdsFor, hcandidates id]

theorem narrowByTrigrams_has (t : Trigram) (parts : List Query) (candidates : Option Posting) :
    r.narrowByTrigrams (.has t :: parts) candidates =
      r.narrowBy t candidates >>= fun next =>
        if next.isEmpty then .ok (some []) else r.narrowByTrigrams parts (some next) := by
  cases candidates <;> rfl

theorem narrowByTrigrams_other {part : Query} (h : part.trigram? = none) (parts : List Query)
    (candidates : Option Posting) :
    r.narrowByTrigrams (part :: parts) candidates = r.narrowByTrigrams parts candidates := by
  cases part <;> simp_all [narrowByTrigrams, Query.trigram?]

/-- After the trigrams of a conjunction the candidates are the files that have them all. -/
theorem narrowed_narrowByTrigrams (hfiles : r.Completion files) {parts : List Query}
    {candidates result : Option Posting} (hcandidates : r.Narrowed candidates p)
    (h : r.narrowByTrigrams parts candidates = .ok result) :
    r.Narrowed result fun id =>
      p id && parts.all fun part => part.trigram?.isNone || holdsFor files id part := by
  induction parts generalizing candidates p with
  | nil =>
    obtain rfl : candidates = result := by simpa [narrowByTrigrams] using h
    simpa using hcandidates
  | cons part parts ih =>
    cases hpart : part.trigram? with
    | none =>
      rw [narrowByTrigrams_other hpart] at h
      simpa [hpart] using ih hcandidates h
    | some t =>
      -- only a trigram narrows in this walk
      obtain rfl : part = .has t := by
        cases part <;> simp_all [Query.trigram?]
      rw [narrowByTrigrams_has] at h
      have := narrowed_of_step (fun next => lists_narrowBy hfiles hcandidates)
        (fun next hnext hrest => ih (show r.Narrowed (some next) _ from hnext) hrest) h
      simpa [Query.trigram?, Bool.and_assoc] using this

theorem narrowByOthers_nil (candidates : Option Posting) :
    r.narrowByOthers [] candidates = .ok candidates := rfl

theorem narrowByOthers_skip {part : Query} (h : part.trigram?.isSome = true ∨ part = .always)
    (parts : List Query) (candidates : Option Posting) :
    r.narrowByOthers (part :: parts) candidates = r.narrowByOthers parts candidates := by
  cases part with
  | has t => rfl
  | always => rfl
  | never | all | any => rcases h with h | h <;> cases h

theorem narrowByOthers_other {part : Query} (h : part.trigram? = none) (halways : part ≠ .always)
    (parts : List Query) (candidates : Option Posting) :
    r.narrowByOthers (part :: parts) candidates =
      (r.execute part >>= fun list => .ok (candidates.elim list (·.inter list))) >>= fun next =>
        if next.isEmpty then .ok (some []) else r.narrowByOthers parts (some next) := by
  rw [bind_assoc]
  cases part with
  | has t => cases h
  | always => exact absurd rfl halways
  | never | all | any => cases candidates <;> rfl

theorem execute_all (parts : List Query) :
    r.execute (.all parts) =
      r.narrowByTrigrams parts none >>= fun candidates =>
        if candidates = some [] then .ok []
        else r.narrowByOthers parts candidates >>= fun candidates =>
          .ok (candidates.getD r.allFiles) := by
  rw [execute]
  congr 1
  funext candidates
  match candidates with
  | some [] => rfl
  | none | some (_ :: _) =>
    rw [if_neg (by simp)]
    dsimp only
    congr 1
    funext candidates
    cases candidates <;> rfl

/-! ## Queries -/

theorem holdsFor_any (files : Trigram → Posting) (id : FileId) (parts : List Query) :
    holdsFor files id (.any parts) = parts.any (holdsFor files id) :=
  Query.holds_any _ parts

/-- A conjunction is asked in two walks, one over its trigrams and one over its other parts. -/
theorem holdsFor_all (files : Trigram → Posting) (id : FileId) (parts : List Query) :
    holdsFor files id (.all parts) =
      ((parts.all fun part => part.trigram?.isNone || holdsFor files id part) &&
        parts.all fun part => part.trigram?.isSome || holdsFor files id part) := by
  have hall : holdsFor files id (.all parts) = parts.all (holdsFor files id) :=
    Query.holds_all _ parts
  rw [hall, Bool.eq_iff_iff]
  simp only [Bool.and_eq_true, List.all_eq_true, Bool.or_eq_true]
  constructor
  · exact fun h => ⟨fun part hpart => .inr (h part hpart), fun part hpart => .inr (h part hpart)⟩
  · rintro ⟨hfirst, hlater⟩ part hpart
    cases ht : part.trigram? with
    | none => simpa [ht] using hlater part hpart
    | some t => simpa [ht] using hfirst part hpart

mutual

/-- An answer is the ascending list of the files that the query holds for. -/
theorem lists_execute (hfiles : r.Completion files) : (q : Query) → {ids : Posting} →
    r.execute q = .ok ids → r.Lists ids fun id => holdsFor files id q
  | .always, ids, h => by
    obtain rfl : r.allFiles = ids := by simpa [execute] using h
    exact lists_allFiles fun id => by simp [holdsFor]
  | .never, ids, h => by
    obtain rfl : [] = ids := by simpa [execute] using h
    exact ⟨.nil, fun id => by simp [holdsFor]⟩
  | .has t, ids, h => by
    rw [execute] at h
    simpa [holdsFor] using hfiles.lists_posting h
  | .all parts, ids, h => by
    rw [execute_all] at h
    obtain ⟨candidates, hfirst, h⟩ := bind_eq_ok_iff.mp h
    -- nothing has been asked yet
    have hnone : r.Narrowed none fun _ => true := fun _ => rfl
    have hcandidates := narrowed_narrowByTrigrams hfiles hnone hfirst
    simp only [Bool.true_and] at hcandidates
    simp only [holdsFor_all]
    split at h
    · next hnil =>
      subst hnil
      obtain rfl : [] = ids := by simpa using h
      exact hcandidates.nil_of_imp fun id hid => (Bool.and_eq_true _ _ ▸ hid).1
    · obtain ⟨result, hlater, h⟩ := bind_eq_ok_iff.mp h
      obtain rfl : result.getD r.allFiles = ids := by simpa using h
      have hresult := narrowed_narrowByOthers hfiles parts hcandidates hlater
      cases result with
      | none => exact lists_allFiles hresult
      | some list => exact hresult
  | .any parts, ids, h => by
    simp only [holdsFor_any]
    rw [execute] at h
    split at h
    · next halways =>
      obtain rfl : r.allFiles = ids := by simpa using h
      refine lists_allFiles fun id => List.any_eq_true.mpr ⟨.always, ?_, by simp [holdsFor]⟩
      simpa using halways
    · have hnil : r.Lists [] fun _ => false := ⟨.nil, fun id => by simp⟩
      simpa using lists_executeAny hfiles parts hnil h

/-- After all parts of a conjunction the candidates are the files that they all hold for. -/
theorem narrowed_narrowByOthers (hfiles : r.Completion files) : (parts : List Query) →
    {candidates result : Option Posting} → {p : FileId → Bool} → r.Narrowed candidates p →
    r.narrowByOthers parts candidates = .ok result →
    r.Narrowed result fun id =>
      p id && parts.all fun part => part.trigram?.isSome || holdsFor files id part
  | [], candidates, result, p, hcandidates, h => by
    obtain rfl : candidates = result := by simpa [narrowByOthers_nil] using h
    simpa using hcandidates
  | part :: parts, candidates, result, p, hcandidates, h => by
    have hexecute {ids : Posting} (h : r.execute part = .ok ids) := lists_execute hfiles part h
    have hrest {candidates result : Option Posting} {p : FileId → Bool}
        (hcandidates : r.Narrowed candidates p) (h : r.narrowByOthers parts candidates = .ok result) :=
      narrowed_narrowByOthers hfiles parts hcandidates h
    -- trigrams were taken before, and `always` says nothing
    by_cases hskip : part.trigram?.isSome = true ∨ part = .always
    · rw [narrowByOthers_skip hskip] at h
      have htrue (id : FileId) : (part.trigram?.isSome || holdsFor files id part) = true := by
        rcases hskip with ht | rfl
        · rw [ht, Bool.true_or]
        · simp [holdsFor]
      simpa [htrue] using hrest hcandidates h
    · obtain ⟨ht, halways⟩ := not_or.mp hskip
      have ht : part.trigram? = none := by simpa using ht
      rw [narrowByOthers_other ht halways] at h
      have hnarrowed (next : Posting)
          (hnext : (r.execute part >>= fun list => .ok (candidates.elim list (·.inter list))) =
            .ok next) : r.Lists next fun id => p id && holdsFor files id part := by
        obtain ⟨list, hlist, hnext⟩ := bind_eq_ok_iff.mp hnext
        obtain rfl : candidates.elim list (·.inter list) = next := by simpa using hnext
        exact hcandidates.inter (hexecute hlist)
      have := narrowed_of_step hnarrowed (fun next hnext => hrest (show r.Narrowed (some next) _ from hnext)) h
      simpa [ht, Bool.and_assoc] using this

/-- After all parts of a disjunction the list has the files that one of them holds for. -/
theorem lists_executeAny (hfiles : r.Completion files) : (parts : List Query) →
    {list ids : Posting} → {p : FileId → Bool} → r.Lists list p →
    r.executeAny parts list = .ok ids →
    r.Lists ids fun id => p id || parts.any fun part => holdsFor files id part
  | [], list, ids, p, hlist, h => by
    obtain rfl : list = ids := by simpa [executeAny] using h
    simpa using hlist
  | part :: parts, list, ids, p, hlist, h => by
    rw [executeAny] at h
    obtain ⟨found, hpart, h⟩ := bind_eq_ok_iff.mp h
    have hfound := lists_execute hfiles part hpart
    have := lists_executeAny hfiles parts (hlist.union hfound) h
    simpa [Bool.or_assoc] using this

end

/-! ## Queries that have an answer -/

/-- All lists that a query mentions can be read. -/
def Reads (r : Reader) (ts : List Trigram) : Prop := ∀ t ∈ ts, ∃ ids, r.posting t = .ok ids

theorem narrowBy_isOk {t : Trigram} (h : ∃ ids, r.posting t = .ok ids) (candidates : Option Posting) :
    ∃ ids, r.narrowBy t candidates = .ok ids := by
  obtain ⟨ids, h⟩ := h
  cases candidates with
  | none => exact ⟨ids, h⟩
  | some list =>
    rw [narrowBy, postingAnd, h]
    split
    · exact ⟨[], rfl⟩
    · exact ⟨list.inter ids, rfl⟩

theorem narrowByTrigrams_isOk {parts : List Query} (h : r.Reads (Query.mentionedIn parts))
    (candidates : Option Posting) : ∃ result, r.narrowByTrigrams parts candidates = .ok result := by
  induction parts generalizing candidates with
  | nil => exact ⟨candidates, rfl⟩
  | cons part parts ih =>
    rw [Query.mentionedIn] at h
    have hrest := ih fun t ht => h t (List.mem_append_right _ ht)
    cases hpart : part.trigram? with
    | none => rw [narrowByTrigrams_other hpart]; exact hrest candidates
    | some t =>
      obtain rfl : part = .has t := by
        cases part <;> simp_all [Query.trigram?]
      rw [narrowByTrigrams_has]
      refine bind_isOk (narrowBy_isOk (h t (by simp [Query.mentioned])) candidates) fun next => ?_
      split
      · exact ⟨some [], rfl⟩
      · exact hrest (some next)

mutual

/-- A query has an answer when all lists that it mentions can be read. -/
theorem execute_isOk : (q : Query) → r.Reads q.mentioned → ∃ ids, r.execute q = .ok ids
  | .always, _ => ⟨_, by rw [execute]⟩
  | .never, _ => ⟨_, by rw [execute]⟩
  | .has t, h => by
    rw [execute]
    exact h t (by simp [Query.mentioned])
  | .all parts, h => by
    rw [Query.mentioned] at h
    rw [execute_all]
    refine bind_isOk (narrowByTrigrams_isOk h none) fun candidates => ?_
    split
    · exact ⟨[], rfl⟩
    · exact bind_isOk (narrowByOthers_isOk parts h candidates) fun _ => ⟨_, rfl⟩
  | .any parts, h => by
    rw [Query.mentioned] at h
    rw [execute]
    split
    · exact ⟨_, rfl⟩
    · exact executeAny_isOk parts h []

theorem narrowByOthers_isOk : (parts : List Query) → r.Reads (Query.mentionedIn parts) →
    (candidates : Option Posting) → ∃ result, r.narrowByOthers parts candidates = .ok result
  | [], _, candidates => ⟨candidates, narrowByOthers_nil candidates⟩
  | part :: parts, h, candidates => by
    rw [Query.mentionedIn] at h
    have hpart := execute_isOk part fun t ht => h t (List.mem_append_left _ ht)
    have hrest := narrowByOthers_isOk parts fun t ht => h t (List.mem_append_right _ ht)
    by_cases hskip : part.trigram?.isSome = true ∨ part = .always
    · rw [narrowByOthers_skip hskip]
      exact hrest candidates
    · obtain ⟨ht, halways⟩ := not_or.mp hskip
      rw [narrowByOthers_other (by simpa using ht) halways]
      refine bind_isOk (bind_isOk hpart fun _ => ⟨_, rfl⟩) fun next => ?_
      split
      · exact ⟨some [], rfl⟩
      · exact hrest (some next)

theorem executeAny_isOk : (parts : List Query) → r.Reads (Query.mentionedIn parts) →
    (list : Posting) → ∃ ids, r.executeAny parts list = .ok ids
  | [], _, list => ⟨list, by rw [executeAny]⟩
  | part :: parts, h, list => by
    rw [Query.mentionedIn] at h
    rw [executeAny]
    refine bind_isOk (execute_isOk part fun t ht => h t (List.mem_append_left _ ht)) fun found => ?_
    exact executeAny_isOk parts (fun t ht => h t (List.mem_append_right _ ht)) _

end

/-- Lists that cannot be read may be taken as empty. -/
theorem completion_getD (r : Reader) : r.Completion fun t => (r.posting t).toOption.getD [] where
  eq_of_posting t ids h := by simp [h, Except.toOption]
  pairwise t fault h := by simp [h, Except.toOption]
  lt_fileCount t fault h := by simp [h, Except.toOption]

/-- Whatever bytes an index has, an answer to a query is the ascending list of the files that the query
holds for, however the lists that cannot be read are filled in; and there is an answer when all lists that
the query mentions can be read. -/
theorem execute_eq_evaluation (r : Reader) (q : Query) :
    (∀ ids, r.execute q = .ok ids → ∀ files, r.Completion files →
      ids.Pairwise (· < ·) ∧
        ∀ id, id ∈ ids ↔ id.toNat < r.fileCount ∧ holdsFor files id q = true) ∧
    ((∀ t ∈ q.trigrams, ∃ ids, r.posting t = .ok ids) → ∃ ids, r.execute q = .ok ids) :=
  ⟨fun _ h _ hfiles => lists_execute hfiles q h,
    fun h => execute_isOk q fun t ht => h t (mem_trigrams.mpr ht)⟩

end TrigramGrep.Index.Reader
