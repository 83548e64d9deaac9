import Mathlib.Data.Finset.Dedup
import Mathlib.Data.Finset.Card
import TrigramGrep.Proofs.Codec.LittleEndian
import TrigramGrep.Proofs.Index.Merge
import TrigramGrep.Proofs.Index.Pairs

/-!
# Runs that were set aside, merged

A run that is set aside lies in a file of its own, eight bytes a pair, and nothing else is in the file.  While the
runs are merged, each is read from the front, pair by pair, until the bytes left are too few for one more.  What was
written is read back, and so the merge gives all pairs of the runs and of the memory, each once, by their trigrams
and then by their files.
-/

namespace TrigramGrep.Index

namespace Run

open Codec

/-! ## Files of runs -/

/-- The first eight bytes of a file are the first pair. -/
theorem ofFile_append {bytes : Bytes} (h : bytes.length = 8) (rest : Bytes) :
    ofFile (bytes ++ rest) = UInt64.ofNat (LittleEndian.decode bytes) :: ofFile rest := by
  match bytes, h with
  | [_, _, _, _, _, _, _, _], _ => rfl

/-- The first pair of a file is the one that was written first. -/
theorem ofFile_encode64_append (p : Pair) (file : Bytes) :
    ofFile (LittleEndian.encode64 p ++ file) = p :: ofFile file := by
  rw [ofFile_append (LittleEndian.length_encode64 p), LittleEndian.encode64, LittleEndian.decode_encode,
    Nat.mod_eq_of_lt (show p.toNat < 256 ^ 8 from p.toNat_lt), UInt64.ofNat_toNat]

/-- What was written is read back. -/
theorem ofFile_toFile (run : Run) : ofFile (toFile run) = run := by
  induction run with
  | nil => rfl
  | cons p run ih => rw [toFile, List.flatMap_cons, ofFile_encode64_append, ← toFile, ih]

/-- The run that is read from the file of a heap is the run of the heap. -/
@[simp] theorem run_ofPairs (pairs : List Pair) : (SpilledRun.ofPairs pairs).run = ofPairs pairs :=
  ofFile_toFile _

/-! ## The merge -/

/-- A run has each pair of its heap once. -/
theorem length_ofPairs (pairs : List Pair) : (ofPairs pairs).length = pairs.toFinset.card := by
  have hnodup : (ofPairs pairs).Nodup := (pairwise_ofPairs pairs).imp fun hlt heq => UInt64.ne_of_lt hlt heq
  have hsame : (ofPairs pairs).toFinset = pairs.toFinset := by
    ext p
    rw [List.mem_toFinset, List.mem_toFinset, mem_ofPairs]
  rw [← hsame, List.toFinset_card_of_nodup hnodup]

/-- Pairs that ascend as numbers ascend by their trigrams and, for the same trigram, by their files. -/
theorem pairwise_unpack {run : Run} (h : run.Pairwise (· < ·)) :
    (run.map Pair.unpack).Pairwise (Prod.Lex (· < ·) (· < ·)) :=
  List.pairwise_map.mpr (h.imp fun hlt => Prod.lex_def.mpr (Pair.lt_iff.mp hlt))

/-- A trigram and a file are unpacked from a run just when their pair is in it. -/
theorem mem_map_unpack {run : Run} {t : Trigram} {id : FileId} :
    (t, id) ∈ run.map Pair.unpack ↔ Pair.pack t id ∈ run := by
  rw [List.mem_map]
  constructor
  · rintro ⟨p, hp, hunpack⟩
    rwa [← Pair.pack_unpack p, hunpack] at hp
  · exact fun hp => ⟨Pair.pack t id, hp, Pair.unpack_pack t id⟩

/-- **The merge is the sorted union.**  However many heaps of pairs were set aside, and whatever is left in memory, in
any order and with any repeats: the merge of the runs, as they are read back from their files, ascends strictly and
has just the pairs of the heaps and of the memory.  Unpacked, these ascend by their trigrams and then by their files.
The length that is kept of a run is the number of different pairs in its heap. -/
theorem merge_spilled (heaps : List (List Pair)) (memory : List Pair) :
    let merged := merge (heaps.map fun pairs => (SpilledRun.ofPairs pairs).run) memory
    merged.Pairwise (· < ·) ∧
      (∀ p, p ∈ merged ↔ (∃ pairs ∈ heaps, p ∈ pairs) ∨ p ∈ memory) ∧
      (merged.map Pair.unpack).Pairwise (Prod.Lex (· < ·) (· < ·)) ∧
      (∀ t id, (t, id) ∈ merged.map Pair.unpack ↔
        (∃ pairs ∈ heaps, Pair.pack t id ∈ pairs) ∨ Pair.pack t id ∈ memory) ∧
      ∀ pairs : List Pair, (SpilledRun.ofPairs pairs).length = pairs.toFinset.card := by
  intro merged
  have hruns : ∀ run ∈ heaps.map ofPairs, run.Pairwise (· < ·) :=
    List.forall_mem_map.mpr fun pairs _ => pairwise_ofPairs pairs
  have hmerged : merged = merge (heaps.map ofPairs) memory := by
    simp only [merged, run_ofPairs]
  have hsorted : merged.Pairwise (· < ·) := hmerged ▸ pairwise_merge hruns
  have hmem : ∀ p, p ∈ merged ↔ (∃ pairs ∈ heaps, p ∈ pairs) ∨ p ∈ memory := by
    intro p
    rw [hmerged, mem_merge hruns, List.mem_flatten]
    simp only [List.mem_map, exists_exists_and_eq_and, mem_ofPairs]
  exact ⟨hsorted, hmem, pairwise_unpack hsorted, fun t id => mem_map_unpack.trans (hmem _), length_ofPairs⟩

end Run

end TrigramGrep.Index
