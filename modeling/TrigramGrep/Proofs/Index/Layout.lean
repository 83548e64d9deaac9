import TrigramGrep.Index.Contents
import TrigramGrep.Index.Reader
import TrigramGrep.Proofs.Codec.Gaps
import TrigramGrep.Proofs.Index.Record

/-!
# Where the sections of an index lie

The bytes of an index are its sections, one behind the other, and the trailer says where each of them
begins.  If everything fits into the numbers of the format (`Contents.Fits`), the trailer is right, and the
bytes can be opened again.
-/

namespace TrigramGrep.Index

namespace Contents

variable {c : Contents}

/-! ## Sections -/

/-- Where the names begin. -/
def namesStart (c : Contents) : Nat := openingMagic.length + c.rootTable.length

/-- Where the name index begins. -/
def nameIndexStart (c : Contents) : Nat := c.namesStart + c.nameTable.length

/-- Where the posting lists begin. -/
def postingsStart (c : Contents) : Nat := c.nameIndexStart + c.nameIndex.length

/-- Where the directory begins. -/
def directoryStart (c : Contents) : Nat := c.postingsStart + c.postingTable.length

/-- The directory as bytes. -/
def directoryTable (c : Contents) : Bytes := c.directory.flatMap DirectoryEntry.encode

private theorem encode_eq (c : Contents) :
    c.encode = openingMagic ++ (c.rootTable ++ (c.nameTable ++ (c.nameIndex ++ (c.postingTable ++
      (c.directoryTable ++ c.trailer.encode))))) := by
  simp only [encode, directoryTable, List.append_assoc]

private theorem drop_of_eq_append (before : Bytes) {text rest : Bytes} {start : Nat}
    (h : text = before ++ rest) (hstart : before.length = start) : text.drop start = rest := by
  rw [h, List.drop_left' hstart]

theorem take_encode (c : Contents) : c.encode.take openingMagic.length = openingMagic := by
  rw [encode_eq, List.take_left]

theorem drop_roots (c : Contents) : ∃ rest, c.encode.drop openingMagic.length = c.rootTable ++ rest :=
  ⟨_, by rw [encode_eq, List.drop_left]⟩

theorem drop_names (c : Contents) : ∃ rest, c.encode.drop c.namesStart = c.nameTable ++ rest :=
  ⟨_, drop_of_eq_append (openingMagic ++ c.rootTable)
    (by rw [encode_eq, List.append_assoc]) List.length_append⟩

theorem drop_nameIndex (c : Contents) :
    ∃ rest, c.encode.drop c.nameIndexStart = c.nameIndex ++ rest :=
  ⟨_, drop_of_eq_append (openingMagic ++ c.rootTable ++ c.nameTable)
    (by rw [encode_eq, List.append_assoc, List.append_assoc])
    (by simp only [nameIndexStart, namesStart, List.length_append])⟩

theorem drop_postings (c : Contents) :
    ∃ rest, c.encode.drop c.postingsStart = c.postingTable ++ rest :=
  ⟨_, drop_of_eq_append (openingMagic ++ c.rootTable ++ c.nameTable ++ c.nameIndex)
    (by rw [encode_eq, List.append_assoc, List.append_assoc, List.append_assoc])
    (by simp only [postingsStart, nameIndexStart, namesStart, List.length_append])⟩

theorem drop_directory (c : Contents) :
    c.encode.drop c.directoryStart = c.directoryTable ++ c.trailer.encode :=
  drop_of_eq_append
    (openingMagic ++ c.rootTable ++ c.nameTable ++ c.nameIndex ++ c.postingTable)
    (by rw [encode_eq, List.append_assoc, List.append_assoc, List.append_assoc, List.append_assoc])
    (by simp only [directoryStart, postingsStart, nameIndexStart, namesStart, List.length_append])

theorem drop_trailer (c : Contents) :
    c.encode.drop (c.directoryStart + c.directoryTable.length) = c.trailer.encode := by
  rw [← List.drop_drop, drop_directory, List.drop_left]

/-- What stands in front of the name index. -/
theorem take_nameIndex (c : Contents) :
    c.encode.take c.nameIndexStart = openingMagic ++ (c.rootTable ++ c.nameTable) := by
  have hlength : (openingMagic ++ (c.rootTable ++ c.nameTable)).length = c.nameIndexStart := by
    simp only [nameIndexStart, namesStart, List.length_append, Nat.add_assoc]
  have hencode : c.encode = (openingMagic ++ (c.rootTable ++ c.nameTable)) ++
      (c.nameIndex ++ (c.postingTable ++ (c.directoryTable ++ c.trailer.encode))) := by
    rw [encode_eq, List.append_assoc, List.append_assoc]
  rw [hencode, List.take_left' hlength]

/-! ## Sizes -/

theorem length_encode (c : Contents) :
    c.encode.length = c.directoryStart + c.directoryTable.length + Trailer.size := by
  rw [encode_eq]
  simp only [List.length_append, Trailer.length_encode, directoryStart, postingsStart, nameIndexStart,
    namesStart]
  omega

theorem length_startsFrom (start : Nat) (parts : List Bytes) :
    (startsFrom start parts).length = parts.length := by
  induction parts generalizing start with
  | nil => rfl
  | cons part parts ih => rw [startsFrom, List.length_cons, ih, List.length_cons]

theorem length_entriesFrom (offset : Nat) (postings : List (Trigram × Posting)) :
    (entriesFrom offset postings).length = postings.length := by
  induction postings generalizing offset with
  | nil => rfl
  | cons entry postings ih => rw [entriesFrom, List.length_cons, ih, List.length_cons]

/-- A table of records of one size. -/
theorem length_flatMap_of_forall {α : Type} {encode : α → Bytes} {size : Nat}
    (h : ∀ a, (encode a).length = size) (records : List α) :
    (records.flatMap encode).length = records.length * size := by
  induction records with
  | nil => simp
  | cons a records ih =>
    rw [List.flatMap_cons, List.length_append, h, ih, List.length_cons, Nat.succ_mul, Nat.add_comm]

theorem length_nameIndex (c : Contents) : c.nameIndex.length = c.names.length * 8 := by
  rw [nameIndex, length_flatMap_of_forall fun _ => Codec.LittleEndian.length_encode64 _,
    length_startsFrom, List.length_map]

theorem length_directoryTable (c : Contents) :
    c.directoryTable.length = c.postings.length * DirectoryEntry.size := by
  rw [directoryTable, length_flatMap_of_forall DirectoryEntry.length_encode, directory,
    length_entriesFrom]

/-! ## What fits -/

/-- Contents that the numbers of the format can tell of, roots apart: the counts have 32 bits, the trigrams ascend,
each with an ascending list of files that there are, and there are less than `2 ^ 63` bytes. -/
structure Fits (c : Contents) : Prop where
  fileCount : c.names.length < 2 ^ 32
  trigramCount : c.postings.length < 2 ^ 32
  trigrams : c.postings.Pairwise fun entry later => entry.1 < later.1
  posting : ∀ entry ∈ c.postings, entry.2.Pairwise (· < ·)
  file : ∀ entry ∈ c.postings, ∀ id ∈ entry.2, id.toNat < c.names.length
  size : c.encode.length < 2 ^ 63

namespace Fits

/-- No section begins beyond the end. -/
private theorem toNat_start (h : c.Fits) (start : Nat) (hstart : start ≤ c.encode.length) :
    (UInt64.ofNat start).toNat = start := by
  have := h.size
  exact UInt64.toNat_ofNat_of_lt' (by simp [UInt64.size]; omega)

theorem toNat_namesOffset (h : c.Fits) : c.trailer.namesOffset.toNat = c.namesStart :=
  h.toNat_start c.namesStart (by
    rw [length_encode, directoryStart, postingsStart, nameIndexStart]
    omega)

theorem toNat_nameIndexOffset (h : c.Fits) : c.trailer.nameIndexOffset.toNat = c.nameIndexStart :=
  h.toNat_start c.nameIndexStart (by
    rw [length_encode, directoryStart, postingsStart]
    omega)

theorem toNat_postingsOffset (h : c.Fits) : c.trailer.postingsOffset.toNat = c.postingsStart :=
  h.toNat_start c.postingsStart (by
    rw [length_encode, directoryStart]
    omega)

theorem toNat_directoryOffset (h : c.Fits) : c.trailer.directoryOffset.toNat = c.directoryStart :=
  h.toNat_start c.directoryStart (by
    rw [length_encode]
    omega)

theorem toNat_rootsOffset (c : Contents) : c.trailer.rootsOffset.toNat = openingMagic.length := by
  simp [trailer]

theorem toNat_rootCount (hroots : c.roots.length < 2 ^ 32) : c.trailer.rootCount.toNat = c.roots.length :=
  UInt32.toNat_ofNat_of_lt' hroots

theorem toNat_fileCount (h : c.Fits) : c.trailer.fileCount.toNat = c.names.length :=
  UInt32.toNat_ofNat_of_lt' h.fileCount

theorem toNat_trigramCount (h : c.Fits) : c.trailer.trigramCount.toNat = c.postings.length :=
  UInt32.toNat_ofNat_of_lt' h.trigramCount

/-- The sections that the trailer tells of follow one another and fill the file. -/
theorem checkLayout (h : c.Fits) (path : Path) :
    checkLayout path c.trailer c.encode.length = .ok () := by
  have hlength := length_encode c
  have hindex := length_nameIndex c
  have hdirectory := length_directoryTable c
  rw [Index.checkLayout]
  simp only [UInt64.le_iff_toNat_le, toNat_rootsOffset, h.toNat_namesOffset, h.toNat_nameIndexOffset,
    h.toNat_postingsOffset, h.toNat_directoryOffset, h.toNat_fileCount, h.toNat_trigramCount]
  rw [if_neg, if_neg, if_neg]
  · rw [hlength, hdirectory]
    omega
  · rw [postingsStart, hindex]
    omega
  · rw [hlength, directoryStart, postingsStart, nameIndexStart, namesStart]
    omega

end Fits

/-! ## Opening -/

/-- The reader of an index. -/
def reader (c : Contents) (path : Path) : Reader :=
  { path := path, data := c.encode, trailer := c.trailer }

/-- The bytes of an index can be opened. -/
theorem Fits.ofBytes_encode (h : c.Fits) (path : Path) :
    Reader.ofBytes path c.encode = .ok (c.reader path) := by
  have hlength := length_encode c
  have htrailer : c.encode.drop (c.encode.length - Trailer.size) = c.trailer.encode := by
    rw [hlength, Nat.add_sub_cancel, drop_trailer]
  have hdecode : Trailer.decode? (c.encode.drop (c.encode.length - Trailer.size)) = some c.trailer := by
    rw [htrailer, ← List.append_nil c.trailer.encode, Trailer.decode?_encode_append]
  have hsize : ¬ c.encode.length < openingMagic.length + Trailer.size := by
    rw [hlength, directoryStart, postingsStart, nameIndexStart, namesStart]
    omega
  rw [Reader.ofBytes, if_neg hsize, if_neg (fun hne => hne c.take_encode), hdecode]
  dsimp only
  rw [if_neg (by simp [trailer]), h.checkLayout]
  rfl

end Contents

end TrigramGrep.Index
