import TrigramGrep.Index.Reader
import TrigramGrep.Proofs.Codec.Gaps

/-!
# Posting lists that can be read

Whatever bytes an index has, a posting list that its reader returns is a strictly ascending list of ids of
files: the gaps only lead upwards, and the last id is compared with the number of files.
-/

namespace TrigramGrep.Index.Reader

variable {r : Reader}

theorem mem_allFiles {id : FileId} : id ∈ r.allFiles ↔ id.toNat < r.fileCount := by
  simp only [allFiles, List.mem_map, List.mem_range]
  constructor
  · rintro ⟨n, hn, rfl⟩
    rw [UInt32.toNat_ofNat']
    exact Nat.lt_of_le_of_lt (Nat.mod_le _ _) hn
  · exact fun h => ⟨id.toNat, h, UInt32.ofNat_toNat⟩

theorem pairwise_allFiles (r : Reader) : r.allFiles.Pairwise (· < ·) := by
  rw [allFiles, List.pairwise_map]
  refine List.pairwise_lt_range.imp_of_mem fun {a b} ha hb hab => ?_
  have hcount : r.fileCount < 2 ^ 32 := r.trailer.fileCount.toNat_lt
  rw [List.mem_range] at ha hb
  rw [UInt32.lt_iff_toNat_lt, UInt32.toNat_ofNat_of_lt' (by simp [UInt32.size]; omega),
    UInt32.toNat_ofNat_of_lt' (by simp [UInt32.size]; omega)]
  exact hab

/-- Ids that ascend are all below a bound when the last one is. -/
theorem lt_of_last_lt {ids : Posting} {bound : FileId} (hsorted : ids.Pairwise (· < ·))
    (hlast : ∀ last ∈ ids.getLast?, last < bound) : ∀ id ∈ ids, id < bound := by
  intro id hid
  have hle := (hsorted.imp UInt32.le_of_lt).rel_getLast hid
  exact UInt32.lt_of_le_of_lt hle (hlast _ (List.getLast?_eq_some_getLast (List.ne_nil_of_mem hid)))

theorem postingOf_eq_ok {t : Trigram} {entry : DirectoryEntry} {ids : Posting}
    (h : r.postingOf t entry = .ok ids) :
    ids.Pairwise (· < ·) ∧ ∀ id ∈ ids, id.toNat < r.fileCount := by
  unfold postingOf at h
  dsimp only at h
  split at h
  · cases h
  · split at h
    · cases h
    · next values hdecode =>
      split at h
      · cases h
      · next hlast =>
        obtain rfl : values = ids := by simpa using h
        have hsorted := Codec.Gaps.pairwise_of_decode? hdecode
        refine ⟨hsorted, fun id hid => UInt32.lt_iff_toNat_lt.mp ?_⟩
        refine lt_of_last_lt hsorted (fun last h => ?_) id hid
        rw [Option.mem_def.mp h, Option.any_some, decide_eq_true_eq, UInt32.not_le] at hlast
        exact hlast

/-- A list that can be read ascends strictly and has ids of files only, whatever the bytes are. -/
theorem posting_eq_ok {t : Trigram} {ids : Posting} (h : r.posting t = .ok ids) :
    ids.Pairwise (· < ·) ∧ ∀ id ∈ ids, id.toNat < r.fileCount := by
  unfold posting at h
  split at h
  · cases h
  · cases h; simp
  · exact postingOf_eq_ok h

end TrigramGrep.Index.Reader
