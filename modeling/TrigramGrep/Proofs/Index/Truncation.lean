import Mathlib
import TrigramGrep.Proofs.Index.Flush
import TrigramGrep.Proofs.Index.Operations
import TrigramGrep.Proofs.Index.ReadBack

/-!
# The front of an index file

An index file holds neither its length nor a sum of its bytes, so whether a file that was cut short is opened depends
on the last of the bytes that are left.  They have to be a trailer, and this trailer has to tell of the bytes before
it; then the file is opened, and otherwise it is not.

Few cuts leave such bytes.  Nearly every number in an index file is small for its width and ends in bytes that are
zero, and a trailer ends in eight bytes that are not, behind a version whose first byte is not zero either.  Where texts
have no zero bytes, no version is found in them.  What remains are the posting lists, which may be any bytes.

## Shape of the proof

`ClosesAt` says that bytes look like the end of a trailer around a place.  A number that ends in zero bytes keeps the
places around it from doing so (`ClosesAt.not_near_word`, `ClosesAt.not_near_longWord`), and the numbers of each section
lie so close that no place is left.
-/

namespace TrigramGrep.Index

open Codec.LittleEndian

/-! ## What is opened -/

/-- A trailer of this version that tells of the bytes in front of it, by their number. -/
structure Trailer.Describes (t : Trailer) (size : Nat) : Prop where
  version : t.version = formatVersion
  roots : openingMagic.length ≤ t.rootsOffset.toNat
  names : t.rootsOffset.toNat ≤ t.namesOffset.toNat
  nameIndex : t.namesOffset.toNat ≤ t.nameIndexOffset.toNat
  postings : t.nameIndexOffset.toNat + t.fileCount.toNat * 8 = t.postingsOffset.toNat
  directory : t.postingsOffset.toNat ≤ t.directoryOffset.toNat
  stop : t.directoryOffset.toNat + t.trigramCount.toNat * DirectoryEntry.size = size

/-- The opening magic stands in front of a trailer. -/
theorem Trailer.Describes.length_le {t : Trailer} {size : Nat} (h : t.Describes size) : openingMagic.length ≤ size := by
  obtain ⟨-, hroots, hnames, hindex, hpostings, hdirectory, hstop⟩ := h
  omega

/-- The checks of the sections and of the version. -/
theorem Trailer.describes_iff (path : Path) (t : Trailer) (size : Nat) :
    t.Describes size ↔ t.version = formatVersion ∧ checkLayout path t (size + Trailer.size) = .ok () := by
  rw [checkLayout]
  simp only [UInt64.le_iff_toNat_le, Nat.add_sub_cancel]
  constructor
  · intro h
    have hpostings := h.postings
    have hstop := h.stop
    refine ⟨h.version, ?_⟩
    rw [if_neg (Classical.not_not.mpr ⟨h.roots, h.names, h.nameIndex, by omega, h.directory, by omega⟩),
      if_neg (Classical.not_not.mpr hpostings), if_neg (Classical.not_not.mpr hstop)]
  · rintro ⟨hversion, h⟩
    split at h
    · cases h
    next hordered =>
    obtain ⟨hroots, hnames, hindex, -, hdirectory, -⟩ := Classical.not_not.mp hordered
    split at h
    · cases h
    next hpostings =>
    split at h
    · cases h
    next hstop =>
    exact ⟨hversion, hroots, hnames, hindex, Classical.not_not.mp hpostings, hdirectory, Classical.not_not.mp hstop⟩

/-- Bytes are opened if they begin as an index does and end in a trailer that tells of the bytes in front of it. -/
theorem Reader.exists_ofBytes_eq_ok_iff {path : Path} {data : Bytes} :
    (∃ r, ofBytes path data = .ok r) ↔
      data.take openingMagic.length = openingMagic ∧
        ∃ before t, data = before ++ Trailer.encode t ∧ t.Describes before.length := by
  constructor
  · rintro ⟨r, h⟩
    rw [ofBytes] at h
    split at h
    · cases h
    next hsize =>
    split at h
    · cases h
    next hmagic =>
    split at h
    · cases h
    next t hdecode =>
    split at h
    · cases h
    next hversion =>
    refine ⟨Classical.not_not.mp hmagic, data.take (data.length - Trailer.size), t, ?_, ?_⟩
    · have hlast := Trailer.take_eq_encode hdecode
      rw [List.take_of_length_le (by rw [List.length_drop]; omega)] at hlast
      rw [← hlast, List.take_append_drop]
    · have hlength : (data.take (data.length - Trailer.size)).length + Trailer.size = data.length := by
        rw [List.length_take]
        omega
      rw [Trailer.describes_iff path, hlength]
      refine ⟨Classical.not_not.mp hversion, ?_⟩
      cases hlayout : checkLayout path t data.length with
      | error fault => rw [hlayout] at h; cases h
      | ok _ => rfl
  · rintro ⟨hmagic, before, t, rfl, hdescribes⟩
    have hroom := hdescribes.length_le
    obtain ⟨hversion, hlayout⟩ := (Trailer.describes_iff path t before.length).mp hdescribes
    have hlength : (before ++ t.encode).length = before.length + Trailer.size := by
      rw [List.length_append, Trailer.length_encode]
    have hdecode :
        Trailer.decode? ((before ++ t.encode).drop (before.length + Trailer.size - Trailer.size)) = some t := by
      rw [Nat.add_sub_cancel, List.drop_left, ← List.append_nil t.encode, Trailer.decode?_encode_append]
    refine ⟨⟨path, before ++ t.encode, t⟩, ?_⟩
    rw [ofBytes, hlength, if_neg (by omega), if_neg (fun hne => hne hmagic), hdecode]
    dsimp only
    rw [if_neg (fun hne => hne hversion), hlayout]

/-- What is opened at a path are the bytes of the file there. -/
theorem Reader.openFile_of_node {fs : FileSystem} {path : Path} {bytes : Bytes}
    (h : fs.node path = .ok (.file bytes)) : openFile fs path = ofBytes path bytes := by
  rw [openFile, h]

/-! ## The end of a trailer -/

/-- Around a place the bytes are as at the end of a trailer: the closing magic begins there, and the bytes before it are
a version. -/
structure ClosesAt (data : Bytes) (place : Nat) : Prop where
  version : data[place - 4]? = some 1
  high : data[place - 1]? = some 0
  magic : ∀ i, place ≤ i → i < place + 8 → data[i]? ≠ some 0
  last : data[place + 7]? = some 49

theorem closingMagic_eq : closingMagic = [82, 71, 82, 80, 69, 78, 68, 49] := by
  rw [closingMagic, Bytes.ofString_eq_flatMap]
  rfl

/-- A trailer of this version ends so. -/
theorem closesAt_of_take {data before : Bytes} {t : Trailer} {k : Nat} (hk : k ≤ data.length)
    (htake : data.take k = before ++ t.encode) (hversion : t.version = formatVersion) : ClosesAt data (k - 8) := by
  let ending : Bytes := [1, 0, 0, 0, 82, 71, 82, 80, 69, 78, 68, 49]
  obtain ⟨front, hfront, hencode⟩ : ∃ front : Bytes, front.length = 56 ∧ t.encode = front ++ ending :=
    ⟨encode64 t.rootsOffset ++ encode32 t.rootCount ++ encode64 t.namesOffset ++ encode64 t.nameIndexOffset ++
        encode32 t.fileCount ++ encode64 t.postingsOffset ++ encode64 t.directoryOffset ++
        encode32 t.trigramCount ++ encode32 t.maxLineLength, by simp,
      by rw [Trailer.encode, hversion, closingMagic_eq, List.append_assoc _ (encode32 formatVersion)]; rfl⟩
  have hlength : k = before.length + 68 := by
    have := congrArg List.length htake
    rw [List.length_take, Nat.min_eq_left hk, List.length_append, Trailer.length_encode] at this
    exact this
  have hbyte (i : Nat) (hi : i < 12) : data[before.length + 56 + i]? = ending[i]? := by
    have hplace : before.length + 56 = (before ++ front).length := by rw [List.length_append, hfront]
    rw [← List.take_append_drop k data, htake, hencode, ← List.append_assoc before, List.append_assoc _ ending,
      hplace, List.getElem?_append_right (Nat.le_add_right _ _), Nat.add_sub_cancel_left,
      List.getElem?_append_left hi]
  have hmagic : ∀ i < 12, 4 ≤ i → ending[i]? ≠ some 0 := by decide
  refine ⟨?_, ?_, fun i hlow hhigh => ?_, ?_⟩
  · rw [show k - 8 - 4 = before.length + 56 + 0 by omega, hbyte 0 (by decide)]
    rfl
  · rw [show k - 8 - 1 = before.length + 56 + 3 by omega, hbyte 3 (by decide)]
    rfl
  · rw [show i = before.length + 56 + (i + 12 - k) by omega, hbyte _ (by omega)]
    exact hmagic _ (by omega) (by omega)
  · rw [show k - 8 + 7 = before.length + 56 + 11 by omega, hbyte 11 (by decide)]
    rfl

namespace ClosesAt

variable {data : Bytes} {place position : Nat}

/-- The end of a trailer is not in the first bytes of a number of 32 bits that is below `2 ^ 24`, nor does it begin just
before. -/
theorem not_near_word (h : ClosesAt data place) {n : UInt32} (hread : read32? data position = some n)
    (hn : n.toNat < 2 ^ 24) : ¬(position ≤ place + 4 ∧ place < position + 4) := by
  intro ⟨hlow, hhigh⟩
  have hzero : data[position + 3]? = some 0 := by
    rw [getElem?_of_slice (read32?_eq_some_iff.mp hread) (by decide), encode32, getElem?_encode (by decide),
      Nat.div_eq_of_lt (show n.toNat < 256 ^ 3 from hn)]
    rfl
  exact h.magic (position + 3) (by omega) (by omega) hzero

/-- Nor is it in a number of 64 bits that is below `2 ^ 32`, or close behind. -/
theorem not_near_longWord (h : ClosesAt data place) {n : UInt64} (hread : read64? data position = some n)
    (hn : n.toNat < 2 ^ 32) : ¬(position ≤ place ∧ place < position + 12) := by
  intro ⟨hlow, hhigh⟩
  have hzero (i : Nat) (hi : 4 ≤ i) (hi' : i < 8) : data[position + i]? = some 0 := by
    have hpow : n.toNat < 256 ^ i := Nat.lt_of_lt_of_le hn (Nat.pow_le_pow_right (n := 256) (by decide) hi)
    rw [getElem?_of_slice (read64?_eq_some_iff.mp hread) hi', encode64, getElem?_encode hi', Nat.div_eq_of_lt hpow]
    rfl
  rcases Nat.lt_or_ge place (position + 8) with hinside | hbehind
  · exact h.magic (position + 7) (by omega) (by omega) (hzero 7 (by decide) (by decide))
  · -- the version would begin with one of the zero bytes
    have hversion := h.version
    rw [show place - 4 = position + (place - 4 - position) by omega, hzero _ (by omega) (by omega)] at hversion
    cases hversion

end ClosesAt

/-! ## The sections of an index -/

theorem toNat_ofNat64_lt {n bound : Nat} (h : n < bound) : (UInt64.ofNat n).toNat < bound := by
  rw [UInt64.toNat_ofNat']
  exact Nat.lt_of_le_of_lt (Nat.mod_le _ _) h

/-- A text with its length in front has no byte that is zero if the text is not empty and has none. -/
theorem zero_notMem_encodeString {text : String} (hne : text ≠ "") (hzero : 0 ∉ Bytes.ofString text)
    (hsize : (Bytes.ofString text).length < 2 ^ 32) : 0 ∉ encodeString text := by
  have hlength : UInt32.ofNat (Bytes.ofString text).length ≠ 0 := by
    intro heq
    have hnat : (UInt32.ofNat (Bytes.ofString text).length).toNat = 0 := by rw [heq]; rfl
    rw [UInt32.toNat_ofNat_of_lt' hsize] at hnat
    exact Nat.ne_of_gt (Bytes.length_ofString_pos hne) hnat
  rw [encodeString, List.mem_append, not_or]
  exact ⟨Codec.Varint.zero_notMem_encode hlength, hzero⟩

/-- Nor has a table of such texts. -/
theorem zero_notMem_table {texts : List String} (htexts : ∀ text ∈ texts, text ≠ "" ∧ 0 ∉ Bytes.ofString text)
    (hsize : (texts.flatMap encodeString).length < 2 ^ 32) : 0 ∉ texts.flatMap encodeString := by
  rw [List.mem_flatMap]
  rintro ⟨text, hmem, hzero⟩
  obtain ⟨hne, hbytes⟩ := htexts text hmem
  obtain ⟨i, hi, rfl⟩ := List.getElem_of_mem hmem
  have hlength := length_take_add_le encodeString hi
  refine zero_notMem_encodeString hne hbytes ?_ hzero
  rw [encodeString, List.length_append] at hlength
  omega

namespace Contents

variable {c : Contents} {place : Nat}

/-- Where the trailer begins. -/
def trailerStart (c : Contents) : Nat := c.directoryStart + c.directoryTable.length

theorem length_encode_eq (c : Contents) : c.encode.length = c.trailerStart + Trailer.size := length_encode c

/-- Where the offsets and the version stand in the trailer. -/
theorem read_trailer (c : Contents) :
    read64? c.encode c.trailerStart = some c.trailer.rootsOffset ∧
      read64? c.encode (c.trailerStart + 12) = some c.trailer.namesOffset ∧
      read64? c.encode (c.trailerStart + 20) = some c.trailer.nameIndexOffset ∧
      read64? c.encode (c.trailerStart + 32) = some c.trailer.postingsOffset ∧
      read64? c.encode (c.trailerStart + 40) = some c.trailer.directoryOffset ∧
      read32? c.encode (c.trailerStart + 56) = some c.trailer.version := by
  have hdrop : c.encode.drop c.trailerStart = c.trailer.encode := drop_trailer c
  rw [← Nat.add_zero c.trailerStart]
  simp only [← read64?_drop, ← read32?_drop, Nat.add_assoc, Nat.zero_add, hdrop]
  simp [Trailer.encode, read64?_append, read32?_append]

/-- No end of a trailer lies in the trailer but its own. -/
theorem not_closesAt_trailer (hsize : c.encode.length < 2 ^ 32) (hlow : c.trailerStart ≤ place + 7)
    (hhigh : place < c.trailerStart + 60) : ¬ClosesAt c.encode place := by
  intro h
  have hlength := length_encode_eq c
  have hstarts : c.namesStart ≤ c.nameIndexStart ∧ c.nameIndexStart ≤ c.postingsStart ∧
      c.postingsStart ≤ c.directoryStart ∧ c.directoryStart ≤ c.trailerStart :=
    ⟨Nat.le_add_right _ _, Nat.le_add_right _ _, Nat.le_add_right _ _, Nat.le_add_right _ _⟩
  obtain ⟨hroots, hnames, hindex, hpostings, hdirectory, hversion⟩ := read_trailer c
  -- the offsets and the version cover the trailer up to its magic
  have hroots' := h.not_near_longWord hroots (toNat_ofNat64_lt (by simp))
  have hnames' := h.not_near_longWord hnames (toNat_ofNat64_lt (show c.namesStart < 2 ^ 32 by omega))
  have hindex' := h.not_near_longWord hindex (toNat_ofNat64_lt (show c.nameIndexStart < 2 ^ 32 by omega))
  have hpostings' := h.not_near_longWord hpostings (toNat_ofNat64_lt (show c.postingsStart < 2 ^ 32 by omega))
  have hdirectory' := h.not_near_longWord hdirectory (toNat_ofNat64_lt (show c.directoryStart < 2 ^ 32 by omega))
  have hversion' := h.not_near_word hversion (show formatVersion.toNat < 2 ^ 24 by decide)
  -- in front of it the last byte of the magic would be one of its first, which are an eight and zeros
  have hbefore : ¬(place < c.trailerStart) := by
    intro hbefore
    have hbyte := getElem?_of_slice (read64?_eq_some_iff.mp hroots) (show place + 7 - c.trailerStart < 8 by omega)
    rw [show c.trailerStart + (place + 7 - c.trailerStart) = place + 7 by omega, h.last] at hbyte
    have hnot : ∀ i < 8, (encode64 (UInt64.ofNat openingMagic.length))[i]? ≠ some 49 := by
      rw [length_openingMagic]
      decide
    exact hnot _ (by omega) hbyte.symm
  omega

/-- Contents as the calls of a program have them: no root and no name is empty or has a byte that is zero, and trigrams
have three bytes. -/
structure Ordinary (c : Contents) : Prop where
  text : ∀ text ∈ c.roots ++ c.names, text ≠ "" ∧ 0 ∉ Bytes.ofString text
  trigram : ∀ entry ∈ c.postings, entry.1.toNat < 2 ^ 24

/-- No end of a trailer lies in the directory. -/
theorem Ordinary.not_closesAt_directory (h : c.Ordinary) (hsize : c.encode.length < 2 ^ 32)
    (hlow : c.directoryStart ≤ place) (hhigh : place < c.trailerStart) : ¬ClosesAt c.encode place := by
  intro hcloses
  have hlength := length_encode_eq c
  have htable : c.trailerStart = c.directoryStart + c.directory.length * 20 := by
    rw [trailerStart, directoryTable, length_flatMap_of_forall DirectoryEntry.length_encode]
    rfl
  have hcount : c.directory.length = c.postings.length := length_entriesFrom 0 c.postings
  -- the entry whose numbers are near may be the next one, and behind the last one stands the trailer
  generalize hi : (place + 4 - c.directoryStart) / 20 = i
  rcases Nat.lt_or_ge i c.directory.length with hlt | hge
  · have hentry : i < c.postings.length := hcount ▸ hlt
    have hstart : c.listStart i < 2 ^ 32 := by
      have hlist := listStart_add_le hentry
      have hpostings : c.postingTable.length ≤ c.directoryStart := Nat.le_add_left _ _
      omega
    obtain ⟨rest, hrest⟩ := drop_entry hlt
    have htrigram : read32? c.encode (c.directoryStart + i * DirectoryEntry.size) =
        some c.directory[i].trigram := by
      rw [read32?_eq_drop, hrest, DirectoryEntry.read32?_encode_append]
    have hoffset : read64? c.encode (c.directoryStart + i * DirectoryEntry.size + 4) =
        some c.directory[i].offset := by
      rw [← read64?_drop, hrest]
      simp [DirectoryEntry.encode, read64?_append]
    rw [getElem_directory hentry hlt] at htrigram hoffset
    have htrigram' := hcloses.not_near_word htrigram (h.trigram _ (List.getElem_mem hentry))
    have hoffset' := hcloses.not_near_longWord hoffset (toNat_ofNat64_lt hstart)
    rw [DirectoryEntry.size] at htrigram' hoffset'
    omega
  · exact not_closesAt_trailer hsize (by omega) (by omega) hcloses

/-- No end of a trailer lies in the name index. -/
theorem not_closesAt_nameIndex (hsize : c.encode.length < 2 ^ 32)
    (hlow : c.nameIndexStart ≤ place) (hhigh : place < c.postingsStart) : ¬ClosesAt c.encode place := by
  intro hcloses
  have hlength := length_encode c
  have htable : c.postingsStart = c.nameIndexStart + c.names.length * 8 := by
    rw [postingsStart, length_nameIndex]
  have hi : (place - c.nameIndexStart) / 8 < c.names.length := by omega
  have hname := length_take_add_le encodeString hi
  have hnames : (c.names.flatMap encodeString).length ≤ c.nameIndexStart := Nat.le_add_left _ _
  have hdirectory : c.postingsStart ≤ c.directoryStart := Nat.le_add_right _ _
  exact hcloses.not_near_longWord (read64?_nameIndex hi) (toNat_ofNat64_lt (by omega)) (by omega)

/-- No byte in front of the name index is zero. -/
theorem Ordinary.getElem?_ne_zero (h : c.Ordinary) (hsize : c.encode.length < 2 ^ 32) {i : Nat}
    (hi : i < c.nameIndexStart) : c.encode[i]? ≠ some 0 := by
  intro hzero
  have hlength := length_encode c
  have hroots : (c.roots.flatMap encodeString).length ≤ c.namesStart := Nat.le_add_left _ _
  have hnames : (c.names.flatMap encodeString).length ≤ c.nameIndexStart := Nat.le_add_left _ _
  have hstarts : c.namesStart ≤ c.nameIndexStart ∧ c.nameIndexStart ≤ c.directoryStart :=
    ⟨Nat.le_add_right _ _, Nat.le_trans (Nat.le_add_right _ _) (Nat.le_add_right _ _)⟩
  have hmem : 0 ∈ openingMagic ++ (c.rootTable ++ c.nameTable) := by
    rw [← take_nameIndex]
    refine List.mem_of_getElem? (i := i) ?_
    rw [List.getElem?_take, if_pos hi, hzero]
  have hmagic : 0 ∉ openingMagic := by
    rw [openingMagic, Bytes.ofString_eq_flatMap]
    decide
  rcases List.mem_append.mp hmem with hmem | hmem
  · exact hmagic hmem
  rcases List.mem_append.mp hmem with hmem | hmem
  · exact zero_notMem_table (fun text htext => h.text text (List.mem_append_left _ htext)) (by omega) hmem
  · exact zero_notMem_table (fun text htext => h.text text (List.mem_append_right _ htext)) (by omega) hmem

/-- The end of a trailer is its own, or it begins in the posting lists. -/
theorem Ordinary.place_of_closesAt (h : c.Ordinary) (hsize : c.encode.length < 2 ^ 32)
    (hcloses : ClosesAt c.encode place) (hplace : place < c.trailerStart + 60) :
    c.postingsStart ≤ place ∧ place < c.directoryStart := by
  have hfront : c.nameIndexStart ≤ place := by
    refine Nat.le_of_not_lt fun hlt => h.getElem?_ne_zero hsize (i := place - 1) (by omega) hcloses.high
  refine ⟨Nat.le_of_not_lt fun hlt => not_closesAt_nameIndex hsize hfront hlt hcloses, ?_⟩
  refine Nat.lt_of_not_le fun hle => ?_
  rcases Nat.lt_or_ge place c.trailerStart with hlt | hge
  · exact h.not_closesAt_directory hsize hle hlt hcloses
  · exact not_closesAt_trailer hsize (by omega) hplace hcloses

/-! ## Cuts -/

variable {k : Nat} {cut : FileSystem} {other : Path}

/-- The first bytes of an index are opened if they end in a trailer of their own. -/
theorem exists_openFile_take_iff (hnode : cut.node other = .ok (.file (c.encode.take k))) :
    (∃ r, Reader.openFile cut other = .ok r) ↔
      ∃ before t, c.encode.take k = before ++ Trailer.encode t ∧ t.Describes before.length := by
  rw [Reader.openFile_of_node hnode, Reader.exists_ofBytes_eq_ok_iff]
  refine and_iff_right_of_imp ?_
  rintro ⟨before, t, htake, hdescribes⟩
  have hlength := congrArg List.length htake
  rw [List.length_take, List.length_append] at hlength
  have hmagic := hdescribes.length_le
  rw [List.take_take, Nat.min_eq_left (by omega), take_encode]

/-- A cut that leaves no end of a trailer is an error. -/
theorem openFile_take_eq_error (hk : k < c.encode.length) (hnode : cut.node other = .ok (.file (c.encode.take k)))
    (h : Trailer.size ≤ k → ¬ClosesAt c.encode (k - 8)) : ∃ fault, Reader.openFile cut other = .error fault := by
  cases hopen : Reader.openFile cut other with
  | error fault => exact ⟨fault, rfl⟩
  | ok r =>
    obtain ⟨before, t, htake, hdescribes⟩ := (exists_openFile_take_iff hnode).mp ⟨r, hopen⟩
    have hlength := congrArg List.length htake
    rw [List.length_take, List.length_append, Trailer.length_encode] at hlength
    exact absurd (closesAt_of_take (Nat.le_of_lt hk) htake hdescribes.version) (h (by omega))

end Contents

namespace Writer

open FileSystem

/-- **What is left of an index is opened only if it ends in a trailer of its own.**

A flush puts the bytes of the index where its path leads.  Where a file has the first `k` of them, it is opened exactly
if the last of these are a trailer that tells of those before them.  In an index below `2 ^ 32` bytes that is not the
case for any cut within the trailer; and for contents as programs have them, the closing magic of such a trailer would
have to begin in the posting lists. -/
theorem openFile_take_flushed {host : Host} (hlawful : host.temporaries.Lawful) (config : Config)
    (calls : List Operation) {path : Path} {fs flushed : FileSystem} {summary : Summary}
    (hflush : ((new config).afterAll host calls).flushAgainst host path fs = (.ok summary, flushed)) :
    let c := ((new config).afterAll host calls).contents
    (∃ ready place, fs.makeDirectoriesAgainst host.toObstacles (directoryOf path) = (.ok (), ready) ∧
        Written ready flushed path place c.encode) ∧
      ∀ k < c.encode.length, ∀ (cut : FileSystem) (other : Path), cut.node other = .ok (.file (c.encode.take k)) →
        ((∃ r, Reader.openFile cut other = .ok r) ↔
          ∃ before t, c.encode.take k = before ++ Trailer.encode t ∧ t.Describes before.length) ∧
        (c.encode.length < 2 ^ 32 → c.encode.length < k + Trailer.size →
          ∃ fault, Reader.openFile cut other = .error fault) ∧
        (c.encode.length < 2 ^ 32 → c.Ordinary → k < c.postingsStart + 8 ∨ c.directoryStart + 8 ≤ k →
          ∃ fault, Reader.openFile cut other = .error fault) := by
  intro c
  refine ⟨(written_of_flushAgainst hlawful hflush).2, fun k hk cut other hnode => ?_⟩
  have hlength := c.length_encode_eq
  refine ⟨Contents.exists_openFile_take_iff hnode, fun hsize hcut => ?_, fun hsize hordinary hcut => ?_⟩
  · refine Contents.openFile_take_eq_error hk hnode fun hlow => ?_
    rw [Trailer.size] at hlength hcut hlow
    exact Contents.not_closesAt_trailer hsize (by omega) (by omega)
  · refine Contents.openFile_take_eq_error hk hnode fun hlow hcloses => ?_
    rw [Trailer.size] at hlength hlow
    have hplace := hordinary.place_of_closesAt hsize hcloses (by omega)
    omega

set_option maxRecDepth 2000 in
/-- An index of a root and a file with one trigram: its posting list has one byte, so all cuts but one are errors. -/
theorem openFile_take_flushed_one :
    let calls : List Operation := [.addRoots ["r"], .addTrigrams "a" [5]]
    let fs : FileSystem := { top := .empty, current := [] }
    let c := ((new {}).afterAll .usual calls).contents
    ∃ flushed, ((new {}).afterAll .usual calls).flush [105] fs = (.ok ⟨1, 1, 109⟩, flushed) ∧
      flushed.read [105] = .ok c.encode ∧ c.Ordinary ∧
      ∀ k < 109, k ≠ 28 → ∀ (cut : FileSystem) (other : Path), cut.node other = .ok (.file (c.encode.take k)) →
        ∃ fault, Reader.openFile cut other = .error fault := by
  intro calls fs c
  have hsummary : (((new {}).afterAll .usual calls).flush [105] fs).1 = .ok ⟨1, 1, 109⟩ := by cbv
  have hflush : ((new {}).afterAll .usual calls).flush [105] fs =
      (.ok ⟨1, 1, 109⟩, (((new {}).afterAll .usual calls).flush [105] fs).2) := Prod.ext hsummary rfl
  have hhere : fs.makeDirectoriesAgainst .none (directoryOf [105]) = (.ok (), fs) := by cbv
  have hthere : fs.resolve .entry [105] = .ok (.missing [] [105]) := by cbv
  have htexts : c.roots ++ c.names = ["r", "a"] := by cbv
  have hentries : c.postings = [(5, [0])] := by cbv
  have hlength : c.encode.length = 109 := by cbv
  have hpostings : c.postingsStart = 20 := by cbv
  have hdirectory : c.directoryStart = 21 := by cbv
  have hordinary : c.Ordinary := by
    refine ⟨?_, by rw [hentries]; decide⟩
    rw [htexts]
    have hroot : Bytes.ofString "r" = [114] := by cbv
    have hname : Bytes.ofString "a" = [97] := by cbv
    exact List.forall_mem_cons.mpr
      ⟨⟨by decide, by rw [hroot]; decide⟩, List.forall_mem_singleton.mpr ⟨by decide, by rw [hname]; decide⟩⟩
  obtain ⟨⟨ready, place, hready, hwritten⟩, hcuts⟩ :=
    openFile_take_flushed Host.lawful_usual {} calls hflush
  -- there was nothing at the path
  obtain rfl : fs = ready := (Prod.mk.inj (hhere.symm.trans hready)).2
  have hread := hwritten.read (hwritten.notMem_trailAbove hthere fun target htarget => by cases htarget)
  refine ⟨_, hflush, hread, hordinary, fun k hk hne cut other hcut => ?_⟩
  obtain ⟨-, -, hplace⟩ := hcuts k (hlength ▸ hk) cut other hcut
  exact hplace (by rw [hlength]; decide) hordinary (by rw [hpostings, hdirectory]; omega)

/-- A trailer that tells of nine bytes in front of it and of no roots, names and posting lists. -/
def disguise : Trailer :=
  { rootsOffset := 8, rootCount := 0, namesOffset := 8, nameIndexOffset := 8, fileCount := 0, postingsOffset := 8,
    directoryOffset := 9, trigramCount := 0, maxLineLength := 100, version := 1 }

/-- The text whose bytes are this trailer. -/
def disguisedName : String := String.ofList (disguise.encode.map fun byte => Char.ofNat byte.toNat)

set_option maxRecDepth 4000 in
/-- An index that was cut behind a name which is a trailer can be opened. -/
theorem not_forall_take_error :
    ¬ ∀ (config : Config) (calls : List Operation) (path : Path) (fs flushed : FileSystem) (summary : Summary)
        (k : Nat),
      ((new config).afterAll .usual calls).flush path fs = (.ok summary, flushed) →
      k < ((new config).afterAll .usual calls).contents.encode.length →
      ∃ fault, Reader.ofBytes path (((new config).afterAll .usual calls).contents.encode.take k) = .error fault := by
  intro hall
  let calls : List Operation := [.addContent disguisedName []]
  let fs : FileSystem := { top := .empty, current := [] }
  have hsummary : (((new {}).afterAll .usual calls).flush [105] fs).1 = .ok ⟨1, 0, 153⟩ := by cbv
  have hlength : ((new {}).afterAll .usual calls).contents.encode.length = 153 := by cbv
  have hopened :
      (Reader.ofBytes [105] (((new {}).afterAll .usual calls).contents.encode.take 77)).isOk = true := by cbv
  obtain ⟨fault, hfault⟩ := hall {} calls [105] fs _ _ 77 (Prod.ext hsummary rfl) (by rw [hlength]; decide)
  rw [hfault] at hopened
  cases hopened

end Writer

end TrigramGrep.Index
