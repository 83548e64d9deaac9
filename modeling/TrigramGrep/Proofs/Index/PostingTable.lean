import TrigramGrep.Proofs.Codec.Guarded
import TrigramGrep.Proofs.Index.RoundTrip

/-!
# Posting lists are written without a wrong step

The merged pairs come in one after the other.  The writer gathers the ids of neighbours with one trigram and hands them
over when a pair of another trigram comes and when no pair is left (`Writer.gather`).  A list that was handed over is
written as gaps, each id less the one before; its number of bytes and its number of ids are put into words of 32 bits
(`Guarded.writePostings`).

Whatever calls a writer has had, no difference falls below zero and no number is too large for its word
(`Writer.postings_written`).

## Shape of the proof

* The lists that are handed over are the groups of the merged pairs (`Writer.gather_eq_groupPairs`).  These ascend, so
  each trigram has one list, and each list ascends.
* A gap takes no more bytes than it leads numbers ahead.  Together the gaps of a list lead from zero to its last id, and
  no id is as large as a word can hold, so the number of bytes fits, and the number of ids with it.
-/

namespace TrigramGrep.Index

open Codec

/-! ## Gathering -/

namespace Writer

/-- The lists that are handed over while pairs come in.  The ids gathered so far are those of the trigram `current`;
they are handed over when a pair of another trigram comes and when no pair is left. -/
def gather (current : Option Trigram) (ids : Posting) : List Pair → List (Trigram × Posting)
  | [] => (current.map fun t => (t, ids)).toList
  | p :: pairs =>
    match current with
    | none => gather (some p.unpack.1) (ids ++ [p.unpack.2]) pairs
    | some t =>
      if t = p.unpack.1 then gather (some t) (ids ++ [p.unpack.2]) pairs
      else (t, ids) :: gather (some p.unpack.1) [p.unpack.2] pairs

/-- The trigram and the ids of a group of pairs. -/
def entryOf (group : List Pair) : Option (Trigram × Posting) :=
  group.head?.map fun p => (p.unpack.1, group.map fun p => p.unpack.2)

/-- A group of one trigram, its last pair first, tells this trigram. -/
private theorem entryOf_reverse {last : Pair} {group : List Pair}
    (h : ∀ q ∈ last :: group, q.unpack.1 = last.unpack.1) :
    entryOf (last :: group).reverse = some (last.unpack.1, (last :: group).reverse.map fun p => p.unpack.2) := by
  rw [entryOf]
  cases hhead : (last :: group).reverse.head? with
  | none => simp at hhead
  | some first =>
    have hfirst : first ∈ last :: group := List.mem_reverse.mp (List.mem_of_mem_head? hhead)
    rw [Option.map_some, h first hfirst]

/-- Splitting pairs with a group begun, its last pair first, gives what gathering gives with the ids of this group.  The
groups found before stand in front. -/
private theorem filterMap_splitBy_loop {last : Pair} {group : List Pair} (pairs : List Pair) (groups : List (List Pair))
    (h : ∀ q ∈ last :: group, q.unpack.1 = last.unpack.1) :
    (List.splitBy.loop (fun p q => decide (p.unpack.1 = q.unpack.1)) pairs last group groups).filterMap entryOf =
      groups.reverse.filterMap entryOf ++
        gather (some last.unpack.1) ((last :: group).reverse.map fun p => p.unpack.2) pairs := by
  induction pairs generalizing last group groups with
  | nil =>
    rw [List.splitBy.loop, List.reverse_cons, List.filterMap_append, List.filterMap_cons_some (entryOf_reverse h)]
    rfl
  | cons p pairs ih =>
    rw [List.splitBy.loop, gather]
    by_cases hsame : last.unpack.1 = p.unpack.1
    · -- the pair joins the group
      have hgroup : ∀ q ∈ p :: last :: group, q.unpack.1 = p.unpack.1 := by
        intro q hq
        rcases List.mem_cons.mp hq with rfl | hq
        · rfl
        · exact (h q hq).trans hsame
      have hids : (p :: last :: group).reverse.map (fun p => p.unpack.2) =
          (last :: group).reverse.map (fun p => p.unpack.2) ++ [p.unpack.2] := by
        rw [List.reverse_cons, List.map_append, List.map_singleton]
      rw [decide_eq_true hsame]
      dsimp only
      rw [if_pos hsame, ih groups hgroup, hids, hsame]
    · -- the group is closed and the pair begins another one
      have hgroup : ∀ q ∈ [p], q.unpack.1 = p.unpack.1 := by
        intro q hq
        rw [List.mem_singleton.mp hq]
      rw [decide_eq_false hsame]
      dsimp only
      rw [if_neg hsame, ih ((last :: group).reverse :: groups) hgroup, List.reverse_cons, List.filterMap_append,
        List.filterMap_cons_some (entryOf_reverse h), List.filterMap_nil, List.append_assoc]
      rfl

/-- The lists that are handed over are the groups of the pairs. -/
theorem gather_eq_groupPairs (pairs : List Pair) : gather none [] pairs = groupPairs pairs := by
  cases pairs with
  | nil => rfl
  | cons p pairs =>
    have h : ∀ q ∈ [p], q.unpack.1 = p.unpack.1 := by
      intro q hq
      rw [List.mem_singleton.mp hq]
    exact (filterMap_splitBy_loop pairs [] h).symm

end Writer

/-! ## Writing -/

/-- Lists that are handed over one after the other, step by step: their bytes and their entries.  `offset` is the number
of bytes before them. -/
def Guarded.writePostings (offset : Nat) :
    List (Trigram × Posting) → TrigramGrep.Outcome WriteFault (Bytes × List DirectoryEntry)
  | [] => .answer ([], [])
  | (trigram, ids) :: rest => do
    let bytes ← Gaps.guardedEncode ids
    let length ← Outcome.word bytes.length
    let count ← Outcome.word ids.length
    let ⟨next, _⟩ ← Outcome.sum 64 offset bytes.length
    let (table, entries) ← writePostings next rest
    .answer (bytes ++ table, { trigram, offset := UInt64.ofNat offset, length, count } :: entries)

variable {lists : List (Trigram × Posting)}

/-- Lists that ascend and have less than `2 ^ 32` bytes each are written without a wrong step, as long as there are not
too many of them. -/
theorem Guarded.writePostings_eq {offset : Nat} (hsorted : ∀ entry ∈ lists, entry.2.Pairwise (· < ·))
    (hbytes : ∀ entry ∈ lists, (Gaps.encode entry.2).length < 2 ^ 32) (hroom : offset + lists.length * 2 ^ 32 ≤ 2 ^ 64) :
    writePostings offset lists =
      .answer (lists.flatMap fun entry => Gaps.encode entry.2, Contents.entriesFrom offset lists) := by
  induction lists generalizing offset with
  | nil => rfl
  | cons entry rest ih =>
    obtain ⟨trigram, ids⟩ := entry
    have hids : ids.Pairwise (· < ·) := hsorted _ List.mem_cons_self
    have hlength : (Gaps.encode ids).length < 2 ^ 32 := hbytes _ List.mem_cons_self
    have hcount : ids.length ≤ (Gaps.encode ids).length := Gaps.length_le_length_encodeAfter none ids
    rw [List.length_cons] at hroom
    have hrest : writePostings (offset + (Gaps.encode ids).length) rest =
        .answer (rest.flatMap fun entry => Gaps.encode entry.2,
          Contents.entriesFrom (offset + (Gaps.encode ids).length) rest) := by
      apply ih
      · exact fun other hother => hsorted other (List.mem_cons_of_mem _ hother)
      · exact fun other hother => hbytes other (List.mem_cons_of_mem _ hother)
      · omega
    rw [writePostings, Gaps.guardedEncode_eq hids, Outcome.answer_bind,
      Outcome.word_eq hlength, Outcome.answer_bind, Outcome.word_eq (by omega), Outcome.answer_bind,
      Outcome.sum_eq (by omega), Outcome.answer_bind]
    dsimp only
    rw [hrest]
    rfl

/-- The entries of such lists tell their numbers of bytes and of ids. -/
theorem Contents.map_counts_entriesFrom (offset : Nat)
    (hbytes : ∀ entry ∈ lists, (Gaps.encode entry.2).length < 2 ^ 32) :
    ((entriesFrom offset lists).map fun e => (e.trigram, e.length.toNat, e.count.toNat)) =
      lists.map fun entry => (entry.1, (Gaps.encode entry.2).length, entry.2.length) := by
  induction lists generalizing offset with
  | nil => rfl
  | cons entry rest ih =>
    have hlength : (Gaps.encode entry.2).length < 2 ^ 32 := hbytes _ List.mem_cons_self
    have hcount : entry.2.length ≤ (Gaps.encode entry.2).length := Gaps.length_le_length_encodeAfter none entry.2
    rw [entriesFrom, List.map_cons, List.map_cons, ih _ fun other hother => hbytes other (List.mem_cons_of_mem _ hother)]
    dsimp only
    rw [UInt32.toNat_ofNat_of_lt' hlength, UInt32.toNat_ofNat_of_lt' (Nat.lt_of_le_of_lt hcount hlength)]

/-! ## After any calls -/

namespace Writer

variable {files : List (String × List Trigram)}

/-- A list of holders that is not empty ends in an id below the largest word, and takes no more bytes than this id says,
and one. -/
theorem exists_last_of_holders (hfew : files.length ≤ maxWord) {t : Trigram} (ht : t ∈ trigramsOf files) :
    ∃ last, (holders files t).getLast? = some last ∧ last.toNat < maxWord ∧
      (Gaps.encode (holders files t)).length ≤ last.toNat + 1 := by
  obtain ⟨id, hid⟩ := mem_trigramsOf.mp ht
  have hlast := List.getLast?_eq_some_getLast (List.ne_nil_of_mem hid)
  have hfile := toNat_lt_of_mem_holders (List.mem_of_getLast? hlast)
  exact ⟨_, hlast, Nat.lt_of_lt_of_le hfile hfew, Gaps.length_encode_le_last (pairwise_holders hfew t) hlast⟩

/-- **Posting lists are written as they are.**  After any calls, with any threshold and on any host, the lists that are
handed over are those of the trigrams of the accepted files, each once and in ascending order: the ids of the files
that hold it, strictly ascending.  A list takes at most one byte more than the number of its last id, so no step of
writing the lists goes wrong, and the directory tells the number of bytes and of ids of each. -/
theorem postings_written (host : Host) (config : Config) (calls : List Operation) :
    let w := (new config).afterAll host calls
    let files := Operation.acceptedOf config calls
    let lists := gather none [] w.merged
    (lists.map Prod.fst).Pairwise (· < ·) ∧
      (∀ t ids, (t, ids) ∈ lists ↔ t ∈ trigramsOf files ∧ ids = holders files t) ∧
      (∀ entry ∈ lists, entry.2.Pairwise (· < ·) ∧ ∃ last, entry.2.getLast? = some last ∧ last.toNat < maxWord ∧
        entry.2.length ≤ (Gaps.encode entry.2).length ∧ (Gaps.encode entry.2).length ≤ last.toNat + 1) ∧
      Guarded.writePostings 0 lists = .answer (w.contents.postingTable, w.contents.directory) ∧
      (w.contents.directory.map fun e => (e.trigram, e.length.toNat, e.count.toNat)) =
        lists.map fun entry => (entry.1, (Gaps.encode entry.2).length, entry.2.length) := by
  intro w files lists
  have hfew : files.length ≤ maxWord := List.length_take_le ..
  have hlists : lists = w.contents.postings := gather_eq_groupPairs _
  have hpostings : w.contents.postings = (Contents.ofFiles config (Operation.rootsOf calls) files).postings := by
    rw [contents_afterAll host config calls]
  have hmem (t : Trigram) (ids : Posting) : (t, ids) ∈ lists ↔ t ∈ trigramsOf files ∧ ids = holders files t := by
    rw [hlists, hpostings]
    exact Contents.mem_postings_ofFiles hfew
  have htrigrams : (lists.map Prod.fst).Pairwise (· < ·) := by
    rw [hlists, hpostings, List.pairwise_map]
    exact Contents.pairwise_postings_ofFiles
  have hentry : ∀ entry ∈ lists, entry.2.Pairwise (· < ·) ∧ ∃ last, entry.2.getLast? = some last ∧
      last.toNat < maxWord ∧ entry.2.length ≤ (Gaps.encode entry.2).length ∧
      (Gaps.encode entry.2).length ≤ last.toNat + 1 := by
    rintro ⟨t, ids⟩ hentry
    obtain ⟨ht, rfl⟩ := (hmem t ids).mp hentry
    obtain ⟨last, hlast, hword, hbytes⟩ := exists_last_of_holders hfew ht
    exact ⟨pairwise_holders hfew t, last, hlast, hword, Gaps.length_le_length_encodeAfter none _, hbytes⟩
  have hbytes : ∀ entry ∈ lists, (Gaps.encode entry.2).length < 2 ^ 32 := by
    intro entry hmem
    obtain ⟨-, last, -, hword, -, hbytes⟩ := hentry entry hmem
    have hmax : maxWord + 1 = 2 ^ 32 := rfl
    omega
  -- there are no more lists than trigrams
  have hcount : lists.length ≤ 2 ^ 32 := by
    have hle : (lists.map Prod.fst).length ≤ 2 ^ 32 := SortedLists.length_le_of_ascending htrigrams
    rwa [List.length_map] at hle
  refine ⟨htrigrams, hmem, hentry, ?_, ?_⟩
  · rw [Guarded.writePostings_eq (fun entry hmem => (hentry entry hmem).1) hbytes (by omega), hlists]
    rfl
  · have hdirectory := Contents.map_counts_entriesFrom 0 hbytes
    rw [hlists] at hdirectory ⊢
    exact hdirectory

end Writer

end TrigramGrep.Index
