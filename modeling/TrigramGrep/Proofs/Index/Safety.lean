import Mathlib
import TrigramGrep.Index.Contents
import TrigramGrep.Proofs.Index.Execute
import TrigramGrep.Proofs.Index.Guarded

/-!
# Queries are answered without a wrong step

Posting lists and queries on an index, step by step, as in `TrigramGrep.Proofs.Index.Guarded`: finding the entry of a
trigram, decoding its list, intersecting and uniting lists by places, and the walks over the parts of a query.

## Shape of the proof

* The search of the directory stays below the number of entries, and these fill the file up to the trailer
  (`Guarded.findEntry_eq`).
* Lists are walked by places, which are words as long as the lists are short enough.  Every list that comes up is
  ascending, so it has no more ids than there are words of 32 bits (`SortedLists.length_le_of_ascending`).
* `Guarded.safety` puts together what an opened index does.
-/

namespace TrigramGrep

/-! ## Lists by places -/

namespace Posting

variable {ε : Type}

/-- The common ids of two lists from two places on, step by step. -/
def guardedInterFrom (a b : Posting) (i j : Nat) : Outcome ε Posting :=
  if _h : i < a.length ∧ j < b.length then do
    let x ← Outcome.get a i
    let y ← Outcome.get b j
    if x < y then
      let ⟨next, _⟩ ← Outcome.sum 64 i 1
      guardedInterFrom a b next j
    else if y < x then
      let ⟨next, _⟩ ← Outcome.sum 64 j 1
      guardedInterFrom a b i next
    else
      let ⟨next, _⟩ ← Outcome.sum 64 i 1
      let ⟨next', _⟩ ← Outcome.sum 64 j 1
      let rest ← guardedInterFrom a b next next'
      .answer (x :: rest)
  else .answer []
termination_by (a.length - i) + (b.length - j)

/-- The ids of one of two lists from two places on, step by step. -/
def guardedUnionFrom (a b : Posting) (i j : Nat) : Outcome ε Posting :=
  if _h : i < a.length ∧ j < b.length then do
    let x ← Outcome.get a i
    let y ← Outcome.get b j
    if x < y then
      let ⟨next, _⟩ ← Outcome.sum 64 i 1
      let rest ← guardedUnionFrom a b next j
      .answer (x :: rest)
    else if y < x then
      let ⟨next, _⟩ ← Outcome.sum 64 j 1
      let rest ← guardedUnionFrom a b i next
      .answer (y :: rest)
    else
      let ⟨next, _⟩ ← Outcome.sum 64 i 1
      let ⟨next', _⟩ ← Outcome.sum 64 j 1
      let rest ← guardedUnionFrom a b next next'
      .answer (x :: rest)
  else do
    let left ← Outcome.slice a i a.length
    let right ← Outcome.slice b j b.length
    .answer (left ++ right)
termination_by (a.length - i) + (b.length - j)

/-- The common ids of two lists, step by step.  Room is set aside for the shorter list first. -/
def guardedInter (a b : Posting) : Outcome ε Posting := do
  Outcome.reserve 4 (min a.length b.length)
  guardedInterFrom a b 0 0

/-- The ids of one of two lists, step by step.  Room is set aside for both lists first. -/
def guardedUnion (a b : Posting) : Outcome ε Posting := do
  let ⟨both, _⟩ ← Outcome.sum 64 a.length b.length
  Outcome.reserve 4 both
  guardedUnionFrom a b 0 0

theorem guardedInterFrom_eq {a b : Posting} (ha : a.length < 2 ^ 64) (hb : b.length < 2 ^ 64) (i j : Nat) :
    (guardedInterFrom a b i j : Outcome ε _) = .answer (inter (a.drop i) (b.drop j)) := by
  rw [guardedInterFrom]
  split
  · next h =>
    rw [Outcome.get_eq h.1, Outcome.answer_bind, Outcome.get_eq h.2, Outcome.answer_bind,
      List.drop_eq_getElem_cons h.1, List.drop_eq_getElem_cons h.2, inter]
    split
    · simp (disch := omega) only [Outcome.sum_eq, Outcome.answer_bind]
      rw [guardedInterFrom_eq ha hb, ← List.drop_eq_getElem_cons h.2]
    split
    · simp (disch := omega) only [Outcome.sum_eq, Outcome.answer_bind]
      rw [guardedInterFrom_eq ha hb, ← List.drop_eq_getElem_cons h.1]
    · simp (disch := omega) only [Outcome.sum_eq, Outcome.answer_bind]
      rw [guardedInterFrom_eq ha hb]
      rfl
  · next h =>
    -- one of the lists is used up
    rcases Nat.lt_or_ge i a.length with hi | hi
    · rw [List.drop_eq_nil_of_le (Nat.le_of_not_lt fun hj => h ⟨hi, hj⟩), List.drop_eq_getElem_cons hi, inter]
    · rw [List.drop_eq_nil_of_le hi, inter]
termination_by (a.length - i) + (b.length - j)

theorem guardedUnionFrom_eq {a b : Posting} (ha : a.length < 2 ^ 64) (hb : b.length < 2 ^ 64) {i j : Nat}
    (hi : i ≤ a.length) (hj : j ≤ b.length) :
    (guardedUnionFrom a b i j : Outcome ε _) = .answer (union (a.drop i) (b.drop j)) := by
  rw [guardedUnionFrom]
  split
  · next h =>
    rw [Outcome.get_eq h.1, Outcome.answer_bind, Outcome.get_eq h.2, Outcome.answer_bind,
      List.drop_eq_getElem_cons h.1, List.drop_eq_getElem_cons h.2, union]
    split
    · simp (disch := omega) only [Outcome.sum_eq, Outcome.answer_bind]
      rw [guardedUnionFrom_eq ha hb h.1 hj, ← List.drop_eq_getElem_cons h.2]
      rfl
    split
    · simp (disch := omega) only [Outcome.sum_eq, Outcome.answer_bind]
      rw [guardedUnionFrom_eq ha hb hi h.2, ← List.drop_eq_getElem_cons h.1]
      rfl
    · simp (disch := omega) only [Outcome.sum_eq, Outcome.answer_bind]
      rw [guardedUnionFrom_eq ha hb h.1 h.2]
      rfl
  · next h =>
    rw [Outcome.slice_length hi, Outcome.answer_bind, Outcome.slice_length hj, Outcome.answer_bind]
    -- one of the lists is used up
    rcases Nat.lt_or_ge i a.length with hlt | hge
    · rw [List.drop_eq_nil_of_le (Nat.le_of_not_lt fun hj => h ⟨hlt, hj⟩), List.append_nil,
        List.drop_eq_getElem_cons hlt, union]
    · rw [List.drop_eq_nil_of_le hge, List.nil_append, union]
termination_by (a.length - i) + (b.length - j)

/-- Intersecting ascending lists makes no wrong step. -/
theorem guardedInter_eq {a b : Posting} (ha : a.Pairwise (· < ·)) (hb : b.Pairwise (· < ·)) :
    (guardedInter a b : Outcome ε _) = .answer (a.inter b) := by
  have ha' : a.length ≤ 2 ^ 32 := SortedLists.length_le_of_ascending ha
  have hb' : b.length ≤ 2 ^ 32 := SortedLists.length_le_of_ascending hb
  rw [guardedInter, Outcome.reserve_eq (by omega), Outcome.answer_bind]
  exact guardedInterFrom_eq (by omega) (by omega) 0 0

/-- Uniting ascending lists makes no wrong step. -/
theorem guardedUnion_eq {a b : Posting} (ha : a.Pairwise (· < ·)) (hb : b.Pairwise (· < ·)) :
    (guardedUnion a b : Outcome ε _) = .answer (a.union b) := by
  have ha' : a.length ≤ 2 ^ 32 := SortedLists.length_le_of_ascending ha
  have hb' : b.length ≤ 2 ^ 32 := SortedLists.length_le_of_ascending hb
  rw [guardedUnion, Outcome.sum_eq (by omega), Outcome.answer_bind]
  dsimp only
  rw [Outcome.reserve_eq (by omega), Outcome.answer_bind]
  exact guardedUnionFrom_eq (by omega) (by omega) (Nat.zero_le _) (Nat.zero_le _)

end Posting

namespace Index.Guarded

/-! ## Posting lists -/

/-- The entry of a trigram among some, step by step. -/
def findEntry (r : Reader) (trigram : Trigram) (low high : Nat) : Outcome ReadFault (Option DirectoryEntry) :=
  if _h : low < high then do
    let ⟨width, _⟩ ← Outcome.difference high low
    let ⟨middle, _⟩ ← Outcome.sum 64 low (width / 2)
    let ⟨distance, _⟩ ← Outcome.product 64 middle DirectoryEntry.size
    let ⟨place, _⟩ ← Outcome.sum 64 r.trailer.directoryOffset.toNat distance
    match Codec.LittleEndian.read32? r.data place with
    | none => .fault .directory
    | some key =>
      if key < trigram then
        let ⟨next, _⟩ ← Outcome.sum 64 middle 1
        findEntry r trigram next high
      else if trigram < key then findEntry r trigram low middle
      else
        let rest ← Outcome.slice r.data place r.data.length
        match DirectoryEntry.decode? rest with
        | none => .fault .directoryEntry
        | some entry => .answer (some entry)
  else .answer none
termination_by high - low

/-- The posting list that an entry tells of, step by step. -/
def postingOf (r : Reader) (trigram : Trigram) (entry : DirectoryEntry) : Outcome ReadFault Posting :=
  let start := boundedAdd r.trailer.postingsOffset.toNat entry.offset.toNat
  let stop := boundedAdd start entry.length.toNat
  if r.trailer.directoryOffset.toNat < stop then .fault (.postingOutOfBounds trigram)
  else do
    let bytes ← Outcome.slice r.data start stop
    match ← Codec.Gaps.guarded bytes entry.count.toNat with
    | none => .fault (.badPosting trigram)
    | some ids =>
      if ids.getLast?.any (r.trailer.fileCount ≤ ·) then .fault (.missingFile trigram) else .answer ids

/-- The files that hold a trigram, step by step. -/
def posting (r : Reader) (trigram : Trigram) : Outcome ReadFault Posting := do
  match ← findEntry r trigram 0 r.trailer.trigramCount.toNat with
  | none => .answer []
  | some entry => postingOf r trigram entry

variable {r : Reader}

theorem findEntry_eq (h : r.IsLaidOut) (t : Trigram) (low high : Nat)
    (hhigh : high ≤ r.trailer.trigramCount.toNat) :
    findEntry r t low high = .ofExcept (r.findEntry t low high) := by
  have hsize := h.size
  have hdirectory := h.directory_add
  rw [findEntry, Reader.findEntry]
  by_cases hlt : low < high
  · have hmiddle : low + (high - low) / 2 < high := by omega
    have hdistance : (low + (high - low) / 2) * DirectoryEntry.size =
        (low + (high - low) / 2) * 20 := rfl
    have hentries : r.trailer.trigramCount.toNat * DirectoryEntry.size =
        r.trailer.trigramCount.toNat * 20 := rfl
    rw [dif_pos hlt, if_pos hlt]
    simp (disch := omega) only [Outcome.difference_eq, Outcome.sum_eq, Outcome.product_eq, Outcome.answer_bind]
    cases Codec.LittleEndian.read32? r.data
        (r.trailer.directoryOffset.toNat + (low + (high - low) / 2) * DirectoryEntry.size) with
    | none => rfl
    | some key =>
      dsimp only
      split
      · exact findEntry_eq h t _ high hhigh
      split
      · exact findEntry_eq h t low _ (by omega)
      · rw [Outcome.slice_length (by omega), Outcome.answer_bind]
        cases DirectoryEntry.decode? _ <;> rfl
  · rw [dif_neg hlt, if_neg hlt]
    rfl
termination_by high - low

theorem postingOf_eq (h : r.IsLaidOut) (t : Trigram) (entry : DirectoryEntry) :
    postingOf r t entry = .ofExcept (r.postingOf t entry) := by
  have hsize := h.size
  have hdirectory := h.directory_add
  rw [postingOf, Reader.postingOf]
  split
  · rfl
  next hstop =>
  have hstart := le_boundedAdd (b := entry.length.toNat)
    (boundedAdd_lt r.trailer.postingsOffset.toNat entry.offset.toNat)
  rw [Outcome.slice_eq hstart (by omega), Outcome.answer_bind, ← sliceOf]
  have hlength : (sliceOf r.data (boundedAdd r.trailer.postingsOffset.toNat entry.offset.toNat)
      (boundedAdd (boundedAdd r.trailer.postingsOffset.toNat entry.offset.toNat) entry.length.toNat)).length ≤
        r.data.length := by
    rw [sliceOf, List.length_take, List.length_drop]
    omega
  rw [Codec.Gaps.guarded_eq (by omega) (Codec.Gaps.toNat_le_maxCount _), Outcome.answer_bind]
  cases Codec.Gaps.decode? _ entry.count.toNat with
  | none => rfl
  | some ids =>
    dsimp only
    split <;> rfl

/-- Reading a posting list makes no wrong step. -/
theorem posting_eq (h : r.IsLaidOut) (t : Trigram) : posting r t = .ofExcept (r.posting t) := by
  rw [posting, findEntry_eq h t _ _ (Nat.le_refl _), Reader.posting, Reader.entry?]
  cases r.findEntry t 0 r.trailer.trigramCount.toNat with
  | error fault => rfl
  | ok found =>
    cases found with
    | none => rfl
    | some entry => exact postingOf_eq h t entry

/-! ## Queries -/

/-- What a list of candidates and the posting list of a trigram have in common, step by step. -/
def narrowBy (r : Reader) (t : Trigram) : Option Posting → Outcome ReadFault Posting
  | none => posting r t
  | some list =>
    if list.isEmpty then .answer []
    else do
      let ids ← posting r t
      list.guardedInter ids

/-- What is left of some candidates by the parts of a conjunction that are trigrams, step by step. -/
def narrowByTrigrams (r : Reader) : List Query → Option Posting → Outcome ReadFault (Option Posting)
  | [], candidates => .answer candidates
  | .has t :: parts, candidates => do
    let next ← narrowBy r t candidates
    if next.isEmpty then .answer (some []) else narrowByTrigrams r parts (some next)
  | _ :: parts, candidates => narrowByTrigrams r parts candidates

/-- Candidates together with one more list, step by step. -/
def narrowTo (candidates : Option Posting) (list : Posting) : Outcome ReadFault Posting :=
  match candidates with
  | none => .answer list
  | some candidates => candidates.guardedInter list

mutual

/-- The files that a query leaves, step by step. -/
def execute (r : Reader) : Query → Outcome ReadFault Posting
  | .always => .answer r.allFiles
  | .never => .answer []
  | .has t => posting r t
  | .all parts => do
    let candidates ← narrowByTrigrams r parts none
    if candidates = some [] then .answer []
    else
      let candidates ← narrowByOthers r parts candidates
      .answer (candidates.getD r.allFiles)
  | .any parts =>
    if parts.any fun part => part = .always then .answer r.allFiles else executeAny r parts []

/-- What is left of some candidates by the parts of a conjunction that are no trigrams, step by step. -/
def narrowByOthers (r : Reader) : List Query → Option Posting → Outcome ReadFault (Option Posting)
  | [], candidates => .answer candidates
  | .has _ :: parts, candidates => narrowByOthers r parts candidates
  | .always :: parts, candidates => narrowByOthers r parts candidates
  | part :: parts, candidates => do
    let list ← execute r part
    let next ← narrowTo candidates list
    if next.isEmpty then .answer (some []) else narrowByOthers r parts (some next)

/-- The files of a list and those that some part of a disjunction leaves, step by step. -/
def executeAny (r : Reader) : List Query → Posting → Outcome ReadFault Posting
  | [], list => .answer list
  | part :: parts, list => do
    let ids ← execute r part
    let next ← list.guardedUnion ids
    executeAny r parts next

end

/-- Candidates ascend, if there are any yet. -/
def Ascending (candidates : Option Posting) : Prop :=
  ∀ list ∈ candidates, list.Pairwise (· < ·)

theorem pairwise_execute {q : Query} {ids : Posting} (h : r.execute q = .ok ids) : ids.Pairwise (· < ·) :=
  (Reader.lists_execute r.completion_getD q h).1

theorem pairwise_narrowBy {t : Trigram} {candidates : Option Posting} {ids : Posting}
    (hcandidates : Ascending candidates) (h : r.narrowBy t candidates = .ok ids) : ids.Pairwise (· < ·) := by
  cases candidates with
  | none => exact (Reader.posting_eq_ok h).1
  | some list =>
    rw [Reader.narrowBy, Reader.postingAnd] at h
    split at h
    · cases h
      exact .nil
    split at h
    · cases h
    · cases h
      exact Posting.pairwise_inter (hcandidates list rfl) _

theorem ascending_narrowByTrigrams {parts : List Query} {candidates : Option Posting}
    (h : r.narrowByTrigrams parts none = .ok candidates) : Ascending candidates := by
  have hnone : r.Narrowed none fun _ => true := fun _ => rfl
  rintro list rfl
  exact (Reader.narrowed_narrowByTrigrams r.completion_getD hnone h).1

theorem pairwise_narrowTo {candidates : Option Posting} {list : Posting} (hcandidates : Ascending candidates)
    (hlist : list.Pairwise (· < ·)) : (candidates.elim list (·.inter list)).Pairwise (· < ·) := by
  cases candidates with
  | none => exact hlist
  | some candidates => exact Posting.pairwise_inter (hcandidates candidates rfl) list

theorem narrowBy_eq (h : r.IsLaidOut) (t : Trigram) {candidates : Option Posting}
    (hcandidates : Ascending candidates) : narrowBy r t candidates = .ofExcept (r.narrowBy t candidates) := by
  cases candidates with
  | none => exact posting_eq h t
  | some list =>
    rw [narrowBy, Reader.narrowBy, Reader.postingAnd]
    split
    · rfl
    rw [posting_eq h]
    cases hids : r.posting t with
    | error fault => rfl
    | ok ids => exact Posting.guardedInter_eq (hcandidates list rfl) (Reader.posting_eq_ok hids).1

theorem narrowTo_eq {candidates : Option Posting} {list : Posting} (hcandidates : Ascending candidates)
    (hlist : list.Pairwise (· < ·)) :
    narrowTo candidates list = .answer (candidates.elim list (·.inter list)) := by
  cases candidates with
  | none => rfl
  | some candidates => exact Posting.guardedInter_eq (hcandidates candidates rfl) hlist

theorem narrowByTrigrams_eq (h : r.IsLaidOut) {parts : List Query} {candidates : Option Posting}
    (hcandidates : Ascending candidates) :
    narrowByTrigrams r parts candidates = .ofExcept (r.narrowByTrigrams parts candidates) := by
  induction parts generalizing candidates with
  | nil => rfl
  | cons part parts ih =>
    cases part with
    | has t =>
      rw [narrowByTrigrams, Reader.narrowByTrigrams_has, narrowBy_eq h t hcandidates]
      refine Outcome.ofExcept_bind fun next hnext => ?_
      split
      · rfl
      · refine ih ?_
        rintro list ⟨⟩
        exact pairwise_narrowBy hcandidates hnext
    | always | never | all | any => exact ih hcandidates

/-- Where a part of a conjunction is asked, the walk over its parts makes no wrong step if asking the part makes none
and the rest of the walk makes none. -/
theorem narrowTo_bind_eq {part : Query} {parts : List Query} {candidates : Option Posting}
    (ht : part.trigram? = none) (halways : part ≠ .always) (hcandidates : Ascending candidates)
    (hpart : execute r part = .ofExcept (r.execute part))
    (hrest : ∀ {next : Option Posting}, Ascending next →
      narrowByOthers r parts next = .ofExcept (r.narrowByOthers parts next)) :
    (execute r part >>= fun list => narrowTo candidates list >>= fun next =>
        if next.isEmpty then .answer (some []) else narrowByOthers r parts (some next)) =
      .ofExcept (r.narrowByOthers (part :: parts) candidates) := by
  rw [Reader.narrowByOthers_other ht halways, bind_assoc, hpart]
  refine Outcome.ofExcept_bind fun list hlist => ?_
  have hlist := pairwise_execute hlist
  rw [narrowTo_eq hcandidates hlist, Outcome.answer_bind]
  have hnext := pairwise_narrowTo hcandidates hlist
  generalize candidates.elim list (·.inter list) = next at hnext ⊢
  show _ = Outcome.ofExcept (if next.isEmpty then .ok (some []) else r.narrowByOthers parts (some next))
  split
  · rfl
  · refine hrest ?_
    rintro list ⟨⟩
    exact hnext

mutual

/-- Answering a query makes no wrong step. -/
theorem execute_eq (h : r.IsLaidOut) : (q : Query) → execute r q = .ofExcept (r.execute q)
  | .always => by rw [execute, Reader.execute]; rfl
  | .never => by rw [execute, Reader.execute]; rfl
  | .has t => by rw [execute, Reader.execute]; exact posting_eq h t
  | .all parts => by
    have hnone : Ascending none := nofun
    rw [execute, Reader.execute_all, narrowByTrigrams_eq h hnone]
    refine Outcome.ofExcept_bind fun candidates hcandidates => ?_
    split
    · rfl
    · rw [narrowByOthers_eq h parts (ascending_narrowByTrigrams hcandidates)]
      exact Outcome.ofExcept_bind fun _ _ => rfl
  | .any parts => by
    rw [execute, Reader.execute]
    split
    · rfl
    · exact executeAny_eq h parts .nil

theorem narrowByOthers_eq (h : r.IsLaidOut) : (parts : List Query) → {candidates : Option Posting} →
    Ascending candidates →
    narrowByOthers r parts candidates = .ofExcept (r.narrowByOthers parts candidates)
  | [], _, _ => rfl
  -- trigrams were taken before, and `always` says nothing
  | .has _ :: parts, _, hcandidates => narrowByOthers_eq h parts hcandidates
  | .always :: parts, _, hcandidates => narrowByOthers_eq h parts hcandidates
  | .never :: parts, _, hcandidates =>
    narrowTo_bind_eq rfl (by nofun) hcandidates (execute_eq h .never) (narrowByOthers_eq h parts)
  | .all others :: parts, _, hcandidates =>
    narrowTo_bind_eq rfl (by nofun) hcandidates (execute_eq h (.all others)) (narrowByOthers_eq h parts)
  | .any others :: parts, _, hcandidates =>
    narrowTo_bind_eq rfl (by nofun) hcandidates (execute_eq h (.any others)) (narrowByOthers_eq h parts)

theorem executeAny_eq (h : r.IsLaidOut) : (parts : List Query) → {list : Posting} → list.Pairwise (· < ·) →
    executeAny r parts list = .ofExcept (r.executeAny parts list)
  | [], list, _ => by rw [executeAny, Reader.executeAny]; rfl
  | part :: parts, list, hlist => by
    rw [executeAny, Reader.executeAny, execute_eq h part]
    refine Outcome.ofExcept_bind fun ids hids => ?_
    have hids := pairwise_execute hids
    rw [Posting.guardedUnion_eq hlist hids, Outcome.answer_bind]
    exact executeAny_eq h parts (Posting.pairwise_union hlist hids)

end

/-- **Reading an index is safe.** Whatever the bytes of a file are, as long as they are fewer than 2⁶³: opening it
makes no wrong step, and for a reader that was opened,

* the name of any id and the roots are read without a wrong step, and what is given lies in the section of the names
  and in that of the roots;
* the posting list of any trigram is read without a wrong step, and a list that is given ascends and has ids of files
  only;
* any query is answered without a wrong step. -/
theorem safety (path : Path) {data : Bytes} (hsize : data.length < 2 ^ 63) :
    ofBytes path data = .ofExcept (Reader.ofBytes path data) ∧
      ∀ r, Reader.ofBytes path data = .ok r →
        (∀ id, Outcome.Agrees (fun placed text => placed.text = text ∧
            placed.LiesIn data r.trailer.namesOffset.toNat r.trailer.nameIndexOffset.toNat)
          (name r id) (r.name id)) ∧
        Outcome.Agrees (ListedIn data r.trailer.rootsOffset.toNat r.trailer.namesOffset.toNat) (roots r) r.roots ∧
        (∀ t, posting r t = .ofExcept (r.posting t) ∧
          ∀ ids, r.posting t = .ok ids → ids.Pairwise (· < ·) ∧ ∀ id ∈ ids, id.toNat < r.fileCount) ∧
        ∀ q, execute r q = .ofExcept (r.execute q) := by
  refine ⟨ofBytes_eq path hsize, fun r hopen => ?_⟩
  obtain ⟨hlayout, rfl⟩ := Reader.isLaidOut_of_ofBytes hsize hopen
  exact ⟨name_agrees hlayout, roots_agrees hlayout,
    fun t => ⟨posting_eq hlayout t, fun _ => Reader.posting_eq_ok⟩, execute_eq hlayout⟩

/-- An index with one root, one name and one posting list, in which the place of the name is overwritten by the
largest number there is. -/
def overwritten : Bytes :=
  let contents : Contents := { roots := ["r"], names := ["a"], postings := [(5, [0])], maxLineLength := 0 }
  contents.encode.take 12 ++ List.replicate 8 255 ++ contents.encode.drop 20

set_option maxRecDepth 4000 in
/-- The place of the name leads out of the file, which is a fault; all else is read as it was. -/
theorem safety_overwritten :
    ∃ r, ofBytes [105] overwritten = .answer r ∧ name r 0 = .fault (.stringPastEnd maxLongWord) ∧
      (∃ placed, roots r = .answer [placed] ∧ placed.text = "r" ∧ placed.LiesIn overwritten 8 10) ∧
      posting r 5 = .answer [0] ∧ execute r (.any [.has 5, .has 6]) = .answer [0] := by
  have hread : (Reader.ofBytes [105] overwritten).toOption.map (fun r =>
      (r.trailer.rootsOffset.toNat, r.trailer.namesOffset.toNat, r.name 0, r.roots, r.posting 5,
        r.execute (.any [.has 5, .has 6]))) =
      some (8, 10, .error (.stringPastEnd maxLongWord), .ok ["r"], .ok [0], .ok [0]) := by cbv
  have hlength : overwritten.length = 109 := by cbv
  obtain ⟨hopen, hreader⟩ := safety [105] (show overwritten.length < 2 ^ 63 by rw [hlength]; decide)
  cases h : Reader.ofBytes [105] overwritten with
  | error fault => rw [h] at hread; cases hread
  | ok r =>
    rw [h] at hread
    simp only [Except.toOption, Option.map_some, Option.some.injEq, Prod.mk.injEq] at hread
    obtain ⟨hlow, hhigh, hname, hroots, hids, hanswer⟩ := hread
    obtain ⟨hnames, hrootTable, hposting, hexecute⟩ := hreader r h
    specialize hnames 0
    rw [hname, Outcome.agrees_error_iff] at hnames
    rw [hroots, Outcome.agrees_ok_iff, hlow, hhigh] at hrootTable
    obtain ⟨placeds, hplaceds, hlisted⟩ := hrootTable
    obtain ⟨placed, rest, ⟨htext, hlies⟩, hrest, rfl⟩ := List.forall₂_cons_right_iff.mp hlisted
    rw [List.forall₂_nil_right_iff] at hrest
    subst hrest
    refine ⟨r, hopen.trans (congrArg Outcome.ofExcept h), hnames, ⟨placed, hplaceds, htext, hlies⟩,
      (hposting 5).1.trans (congrArg Outcome.ofExcept hids),
      (hexecute _).trans (congrArg Outcome.ofExcept hanswer)⟩

end Index.Guarded

end TrigramGrep
