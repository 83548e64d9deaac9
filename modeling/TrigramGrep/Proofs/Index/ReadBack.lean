import TrigramGrep.Proofs.Index.Layout
import TrigramGrep.Proofs.SortedLists
import TrigramGrep.Proofs.Text.Utf8

/-!
# Reading back an index

A reader of the bytes of an index gives its roots, its names and its posting lists, as long as the contents
fit the format; a root or a name has to have a length of 32 bits, too.

## Shape of the proof

Each answer is read at a place that the format computes.  For every table there is one lemma that says what
stands at the place of its `i`-th member: texts follow one another, records have one size, and posting lists
lie where the directory says.  The search in the directory keeps the entry that it looks for between its
bounds (`Contents.Fits.findEntry_reader`).
-/

namespace TrigramGrep.Index

/-! ## Places -/

theorem sliceOf_eq_of_drop {data part rest : Bytes} {start : Nat} (h : data.drop start = part ++ rest) :
    sliceOf data start (start + part.length) = part := by
  rw [sliceOf, h, Nat.add_sub_cancel_left, List.take_left]

theorem boundedAdd_eq {a b : Nat} (h : a + b < 2 ^ 64) : boundedAdd a b = a + b := by
  rw [boundedAdd, Nat.min_eq_left]
  simp only [maxLongWord, UInt64.size]
  omega

section Tables

variable {α : Type} {encode : α → Bytes} {members : List α} {i : Nat}

/-- A table is the first members, the next one and the others. -/
private theorem flatMap_eq_append (encode : α → Bytes) (h : i < members.length) :
    members.flatMap encode = (members.take i).flatMap encode ++
      (encode members[i] ++ (members.drop (i + 1)).flatMap encode) := by
  rw [← List.flatMap_cons, ← List.drop_eq_getElem_cons h, ← List.flatMap_append,
    List.take_append_drop]

/-- Behind the bytes of the first members of a table stands the next one. -/
theorem drop_member {data rest : Bytes} {start : Nat}
    (hdata : data.drop start = members.flatMap encode ++ rest) (h : i < members.length) :
    ∃ rest, data.drop (start + ((members.take i).flatMap encode).length) =
      encode members[i] ++ rest := by
  rw [← List.drop_drop, hdata, flatMap_eq_append encode h, List.append_assoc, List.drop_left,
    List.append_assoc]
  exact ⟨_, rfl⟩

/-- A member ends before its table does. -/
theorem length_take_add_le (encode : α → Bytes) (h : i < members.length) :
    ((members.take i).flatMap encode).length + (encode members[i]).length ≤
      (members.flatMap encode).length := by
  rw [flatMap_eq_append encode h, List.length_append, List.length_append]
  omega

end Tables

/-- A text that stands at a place is read there, and what follows it begins behind its bytes. -/
theorem Reader.stringAt_eq {r : Reader} {position limit : Nat} {text : String} {rest : Bytes}
    (hdata : r.data.drop position = encodeString text ++ rest)
    (hlimit : position + (encodeString text).length ≤ limit) (hsize : r.data.length < 2 ^ 63)
    (htext : (Bytes.ofString text).length < 2 ^ 32) :
    r.stringAt position limit = .ok (text, position + (encodeString text).length) := by
  have hword : (UInt32.ofNat (Bytes.ofString text).length).toNat = (Bytes.ofString text).length :=
    UInt32.toNat_ofNat_of_lt' htext
  have hnumber := List.length_pos_iff.mpr
    (Codec.Varint.encode_ne_nil (UInt32.ofNat (Bytes.ofString text).length))
  generalize hn : UInt32.ofNat (Bytes.ofString text).length = number at hword hnumber
  generalize hb : Bytes.ofString text = bytes at hword
  have hencode : encodeString text = Codec.Varint.encode number ++ bytes := by
    rw [encodeString, hn, hb]
  rw [hencode] at hdata hlimit ⊢
  rw [List.length_append] at hlimit ⊢
  have hroom : position + ((Codec.Varint.encode number).length + bytes.length) ≤ r.data.length := by
    have := congrArg List.length hdata
    simp only [List.length_drop, List.length_append] at this
    omega
  have hfront : sliceOf r.data position (min limit r.data.length) =
      Codec.Varint.encode number ++
        (bytes ++ rest.take (min limit r.data.length - position -
          (Codec.Varint.encode number ++ bytes).length)) := by
    rw [sliceOf, hdata, List.take_append, List.take_of_length_le, List.append_assoc]
    rw [List.length_append]
    omega
  have hstart : r.data.drop (position + (Codec.Varint.encode number).length) = bytes ++ rest := by
    rw [← List.drop_drop, hdata, List.append_assoc, List.drop_left]
  have hstop : boundedAdd (position + (Codec.Varint.encode number).length) number.toNat =
      position + (Codec.Varint.encode number).length + bytes.length := by
    rw [boundedAdd_eq (by omega), hword]
  rw [stringAt]
  dsimp only
  rw [if_neg (by omega), hfront, Codec.Varint.decode?_encode_append]
  dsimp only
  rw [hstop, if_neg (by omega), sliceOf_eq_of_drop hstart, ← hb, Text.Utf8.decode_ofString, hb]
  dsimp only
  rw [Nat.add_assoc]

/-! ## Roots and names -/

/-- Texts that stand one behind the other are read in order. -/
theorem Reader.stringsFrom_eq {r : Reader} {limit : Nat} (hsize : r.data.length < 2 ^ 63)
    (texts : List String) {position : Nat} {rest : Bytes}
    (hdata : r.data.drop position = texts.flatMap encodeString ++ rest)
    (hlimit : position + (texts.flatMap encodeString).length ≤ limit)
    (htexts : ∀ text ∈ texts, (Bytes.ofString text).length < 2 ^ 32) :
    r.stringsFrom limit texts.length position = .ok texts := by
  induction texts generalizing position with
  | nil => rfl
  | cons text texts ih =>
    rw [List.flatMap_cons, List.append_assoc] at hdata
    rw [List.flatMap_cons, List.length_append] at hlimit
    have hnext : r.data.drop (position + (encodeString text).length) =
        texts.flatMap encodeString ++ rest := by
      rw [← List.drop_drop, hdata, List.drop_left]
    rw [List.length_cons, stringsFrom,
      Reader.stringAt_eq hdata (by omega) hsize (htexts text List.mem_cons_self)]
    dsimp only
    rw [ih hnext (by omega) fun other hother => htexts other (List.mem_cons_of_mem _ hother)]

namespace Contents

variable {c : Contents}

theorem getElem_startsFrom {start i : Nat} {texts : List String}
    (h : i < (startsFrom start (texts.map encodeString)).length) :
    (startsFrom start (texts.map encodeString))[i] =
      start + ((texts.take i).flatMap encodeString).length := by
  induction texts generalizing start i with
  | nil => simp [startsFrom] at h
  | cons text texts ih =>
    cases i with
    | zero => simp [startsFrom]
    | succ i =>
      simp only [List.map_cons, startsFrom, List.getElem_cons_succ, List.take_succ_cons,
        List.flatMap_cons, List.length_append]
      rw [ih, Nat.add_assoc]

theorem map_entriesFrom (offset : Nat) (postings : List (Trigram × Posting)) :
    (entriesFrom offset postings).map DirectoryEntry.trigram = postings.map Prod.fst := by
  induction postings generalizing offset with
  | nil => rfl
  | cons entry postings ih => rw [entriesFrom, List.map_cons, ih, List.map_cons]

theorem getElem_entriesFrom {offset i : Nat} {postings : List (Trigram × Posting)}
    (h : i < (entriesFrom offset postings).length) (hi : i < postings.length) :
    (entriesFrom offset postings)[i] =
      { trigram := postings[i].1
        offset := UInt64.ofNat
          (offset + ((postings.take i).flatMap fun entry => Codec.Gaps.encode entry.2).length)
        length := UInt32.ofNat (Codec.Gaps.encode postings[i].2).length
        count := UInt32.ofNat postings[i].2.length } := by
  induction postings generalizing offset i with
  | nil => simp at hi
  | cons entry postings ih =>
    cases i with
    | zero => simp [entriesFrom]
    | succ i =>
      simp only [entriesFrom, List.getElem_cons_succ, List.take_succ_cons, List.flatMap_cons,
        List.length_append]
      rw [ih _ (by simpa using hi), Nat.add_assoc]

/-- The name index tells where a name lies in the name table. -/
theorem read64?_nameIndex {i : Nat} (hi : i < c.names.length) :
    Codec.LittleEndian.read64? c.encode (c.nameIndexStart + i * 8) =
      some (UInt64.ofNat ((c.names.take i).flatMap encodeString).length) := by
  obtain ⟨rest, hindex⟩ := c.drop_nameIndex
  have hcount : i < (startsFrom 0 (c.names.map encodeString)).length := by
    rw [length_startsFrom, List.length_map]
    exact hi
  obtain ⟨rest, hrest⟩ := drop_member hindex hcount
  rw [length_flatMap_of_forall fun _ => Codec.LittleEndian.length_encode64 _, List.length_take,
    Nat.min_eq_left (Nat.le_of_lt hcount)] at hrest
  rw [Codec.LittleEndian.read64?_eq_drop, hrest, Codec.LittleEndian.read64?_encode64_append,
    getElem_startsFrom, Nat.zero_add]

/-- Where an entry of the directory lies. -/
theorem drop_entry {i : Nat} (hi : i < c.directory.length) :
    ∃ rest, c.encode.drop (c.directoryStart + i * DirectoryEntry.size) =
      c.directory[i].encode ++ rest := by
  obtain ⟨rest, hrest⟩ := drop_member c.drop_directory hi
  rw [length_flatMap_of_forall DirectoryEntry.length_encode, List.length_take,
    Nat.min_eq_left (Nat.le_of_lt hi)] at hrest
  exact ⟨rest, hrest⟩

/-- Where the posting list of an entry begins in the table of posting lists. -/
def listStart (c : Contents) (i : Nat) : Nat :=
  ((c.postings.take i).flatMap fun entry => Codec.Gaps.encode entry.2).length

/-- What an entry of the directory tells, as far as it fits. -/
theorem getElem_directory {i : Nat} (hi : i < c.postings.length) (hentry : i < c.directory.length) :
    c.directory[i] =
      { trigram := c.postings[i].1
        offset := UInt64.ofNat (c.listStart i)
        length := UInt32.ofNat (Codec.Gaps.encode c.postings[i].2).length
        count := UInt32.ofNat c.postings[i].2.length } := by
  refine (getElem_entriesFrom hentry hi).trans ?_
  rw [Nat.zero_add, listStart]

theorem listStart_add_le {i : Nat} (hi : i < c.postings.length) :
    c.listStart i + (Codec.Gaps.encode c.postings[i].2).length ≤ c.postingTable.length :=
  length_take_add_le (fun entry : Trigram × Posting => Codec.Gaps.encode entry.2) hi

namespace Fits

variable (h : c.Fits) (path : Path)

include h

/-- The roots are read back. -/
theorem roots_reader (hcount : c.roots.length < 2 ^ 32)
    (hroots : ∀ root ∈ c.roots, (Bytes.ofString root).length < 2 ^ 32) :
    (c.reader path).roots = .ok c.roots := by
  obtain ⟨rest, hrest⟩ := c.drop_roots
  rw [Reader.roots]
  simp only [reader, h.toNat_namesOffset, toNat_rootCount hcount, toNat_rootsOffset]
  exact Reader.stringsFrom_eq h.size c.roots hrest (Nat.le_refl _) hroots

/-- The name of a file is read back. -/
theorem name_reader {id : FileId} (hid : id.toNat < c.names.length)
    (hname : (Bytes.ofString c.names[id.toNat]).length < 2 ^ 32) :
    (c.reader path).name id = .ok c.names[id.toNat] := by
  have hplace := read64?_nameIndex hid
  obtain ⟨rest, hnames⟩ := c.drop_names
  obtain ⟨rest, hrest⟩ := drop_member hnames hid
  have hend := length_take_add_le encodeString hid
  have hwhole := length_encode c
  have hsize := h.size
  have htable : c.nameTable.length = (c.names.flatMap encodeString).length := rfl
  rw [directoryStart, postingsStart, nameIndexStart, htable] at hwhole
  have hoffset : (UInt64.ofNat ((c.names.take id.toNat).flatMap encodeString).length).toNat =
      ((c.names.take id.toNat).flatMap encodeString).length :=
    UInt64.toNat_ofNat_of_lt' (by simp only [UInt64.size]; omega)
  have hid' : ¬ c.trailer.fileCount ≤ id := by
    rw [UInt32.le_iff_toNat_le, h.toNat_fileCount]
    omega
  rw [Reader.name]
  simp only [reader, h.toNat_nameIndexOffset, h.toNat_namesOffset]
  rw [if_neg hid', hplace]
  dsimp only
  rw [hoffset, boundedAdd_eq (by omega), Reader.stringAt_eq hrest _ hsize hname]
  rw [nameIndexStart, htable]
  omega

/-- There are no more names than files. -/
theorem name_reader_of_le {id : FileId} (hid : c.names.length ≤ id.toNat) :
    (c.reader path).name id = .error (.fileOutOfRange id c.trailer.fileCount) := by
  refine if_pos (UInt32.le_iff_toNat_le.mpr ?_)
  exact h.toNat_fileCount ▸ hid

/-! ## Posting lists -/

/-- The trigrams of the directory ascend. -/
theorem pairwise_directory :
    c.directory.Pairwise fun entry later => entry.trigram < later.trigram := by
  rw [← List.pairwise_map (f := DirectoryEntry.trigram) (R := fun s t : Trigram => s < t), directory,
    map_entriesFrom, List.pairwise_map]
  exact h.trigrams

/-- The search in the directory keeps what it looks for between its bounds. -/
theorem findEntry_reader (t : Trigram) (low high : Nat) (hhigh : high ≤ c.directory.length)
    (hbelow : ∀ i (hi : i < c.directory.length), i < low → c.directory[i].trigram < t)
    (habove : ∀ i (hi : i < c.directory.length), high ≤ i → t < c.directory[i].trigram) :
    (c.reader path).findEntry t low high = .ok (c.directory.find? fun entry => entry.trigram = t) := by
  have hsorted := h.pairwise_directory
  induction hsize : high - low using Nat.strongRecOn generalizing low high with
  | ind size ih =>
    rw [Reader.findEntry]
    dsimp only
    split
    · next hlt =>
      have hmiddle : low + (high - low) / 2 < c.directory.length := by omega
      obtain ⟨rest, hrest⟩ := drop_entry hmiddle
      -- the entry in the middle is read, and its key says on which side to go on
      have hat (i : Nat) (hi : i < c.directory.length) (j : Nat) (hj : j < c.directory.length)
          (hij : i < j) : c.directory[i].trigram < c.directory[j].trigram :=
        List.pairwise_iff_getElem.mp hsorted i j hi hj hij
      simp only [reader, h.toNat_directoryOffset]
      rw [Codec.LittleEndian.read32?_eq_drop, hrest, DirectoryEntry.read32?_encode_append,
        DirectoryEntry.decode?_encode_append]
      dsimp only
      split
      · next hkey =>
        refine ih _ ?_ _ high hhigh (fun i hi hlow => ?_) habove rfl
        · omega
        · rcases Nat.lt_or_eq_of_le (Nat.le_of_lt_succ hlow) with hlow | rfl
          · exact UInt32.lt_trans (hat i hi _ hmiddle hlow) hkey
          · exact hkey
      · split
        · next hkey =>
          refine ih _ ?_ low _ (Nat.le_of_lt hmiddle) hbelow (fun i hi hhigh => ?_) rfl
          · omega
          · rcases Nat.lt_or_eq_of_le hhigh with hhigh | rfl
            · exact UInt32.lt_trans hkey (hat _ hmiddle i hi hhigh)
            · exact hkey
        · next hge hle =>
          have heq : c.directory[low + (high - low) / 2].trigram = t :=
            UInt32.le_antisymm (UInt32.not_lt.mp hle) (UInt32.not_lt.mp hge)
          subst heq
          rw [SortedLists.find?_key_eq DirectoryEntry.trigram hsorted (List.getElem_mem hmiddle)]
    · next hge =>
      refine congrArg Except.ok (List.find?_eq_none.mpr fun entry hentry heq => ?_).symm
      obtain ⟨i, hi, rfl⟩ := List.getElem_of_mem hentry
      rw [decide_eq_true_eq] at heq
      rcases Nat.lt_or_ge i low with hlow | hlow
      · exact UInt32.lt_irrefl t (heq ▸ hbelow i hi hlow)
      · exact UInt32.lt_irrefl t (heq ▸ habove i hi (by omega))

theorem postingTable_lt : c.postingsStart + c.postingTable.length < 2 ^ 63 := by
  have hsize := h.size
  rw [length_encode, directoryStart] at hsize
  omega

/-- An entry of the directory tells where a posting list lies and how long it is. -/
theorem toNat_directory {i : Nat} (hi : i < c.postings.length) (hentry : i < c.directory.length) :
    c.directory[i].offset.toNat = c.listStart i ∧
      c.directory[i].length.toNat = (Codec.Gaps.encode c.postings[i].2).length ∧
      c.directory[i].count.toNat = c.postings[i].2.length := by
  have hmem := List.getElem_mem hi
  -- a list takes no more bytes than there are files, because it ascends
  have hlength := Codec.Gaps.length_encode_le (h.posting _ hmem) (h.file _ hmem)
  have hcount : c.postings[i].2.length ≤ (Codec.Gaps.encode c.postings[i].2).length :=
    Codec.Gaps.length_le_length_encodeAfter none _
  have hfiles := h.fileCount
  have hend := c.listStart_add_le hi
  have htable := h.postingTable_lt
  rw [getElem_directory hi hentry]
  refine ⟨UInt64.toNat_ofNat_of_lt' ?_, UInt32.toNat_ofNat_of_lt' ?_, UInt32.toNat_ofNat_of_lt' ?_⟩
  · simp only [UInt64.size]
    omega
  · simp only [UInt32.size]
    omega
  · simp only [UInt32.size]
    omega

/-- The posting list that an entry of the directory tells of is read back. -/
theorem postingOf_reader {i : Nat} (hi : i < c.postings.length) (hentry : i < c.directory.length) :
    (c.reader path).postingOf c.postings[i].1 c.directory[i] = .ok c.postings[i].2 := by
  have hmem := List.getElem_mem hi
  obtain ⟨hoffset, hbytes, hnumber⟩ := h.toNat_directory hi hentry
  have hend := c.listStart_add_le hi
  have htable := h.postingTable_lt
  have hpostings : (c.reader path).trailer.postingsOffset.toNat = c.postingsStart := h.toNat_postingsOffset
  have hdirectory : (c.reader path).trailer.directoryOffset.toNat = c.directoryStart :=
    h.toNat_directoryOffset
  obtain ⟨rest, hrest⟩ := c.drop_postings
  obtain ⟨rest, hrest⟩ := drop_member hrest hi
  -- no file of the list is missing
  have hlast : ¬ (c.postings[i].2.getLast?.any ((c.reader path).trailer.fileCount ≤ ·)) = true := by
    rw [Option.any_eq_true]
    rintro ⟨last, hlast, hle⟩
    have hlt := h.file _ hmem last (List.mem_of_getLast? hlast)
    have hcount : (c.reader path).trailer.fileCount.toNat = c.names.length := h.toNat_fileCount
    rw [decide_eq_true_eq, UInt32.le_iff_toNat_le, hcount] at hle
    omega
  have hroom : ¬ c.directoryStart <
      c.postingsStart + c.listStart i + (Codec.Gaps.encode c.postings[i].2).length := by
    rw [directoryStart]
    omega
  have hstart : boundedAdd c.postingsStart (c.listStart i) = c.postingsStart + c.listStart i :=
    boundedAdd_eq (by omega)
  rw [Reader.postingOf, hoffset, hbytes, hnumber, hpostings, hdirectory, hstart, boundedAdd_eq (by omega)]
  rw [if_neg hroom, sliceOf_eq_of_drop (by exact hrest), Codec.Gaps.decode?_encode (h.posting _ hmem)]
  dsimp only
  rw [if_neg hlast]

/-- The entry of a trigram is found if there is one. -/
theorem lookup_reader (t : Trigram) :
    Reader.entry? (c.reader path) t = .ok (c.directory.find? fun entry => entry.trigram = t) := by
  have hlength : c.directory.length = c.postings.length := length_entriesFrom ..
  rw [ Reader.entry?]
  refine h.findEntry_reader path t 0 _ ?_ (fun i _ hi => absurd hi (Nat.not_lt_zero i)) ?_
  · simp only [reader, h.toNat_trigramCount, hlength, Nat.le_refl]
  · intro i hi hle
    simp only [reader, h.toNat_trigramCount] at hle
    omega

/-- The posting list of a trigram is read back. -/
theorem posting_reader {t : Trigram} {ids : Posting} (ht : (t, ids) ∈ c.postings) :
    (c.reader path).posting t = .ok ids := by
  have hlength : c.directory.length = c.postings.length := length_entriesFrom ..
  obtain ⟨i, hi, hentry⟩ := List.getElem_of_mem ht
  have hi' : i < c.directory.length := hlength ▸ hi
  have htrigram : c.directory[i].trigram = t := by
    have := congrArg DirectoryEntry.trigram (getElem_entriesFrom hi' hi)
    rwa [hentry] at this
  have hfind : (c.directory.find? fun entry => entry.trigram = t) = some c.directory[i] := by
    rw [← htrigram]
    exact SortedLists.find?_key_eq DirectoryEntry.trigram h.pairwise_directory (List.getElem_mem hi')
  rw [Reader.posting, h.lookup_reader, hfind]
  have := h.postingOf_reader path hi hi'
  rwa [hentry] at this

/-- A trigram that does not occur has no files. -/
theorem posting_reader_of_not_mem {t : Trigram} (ht : t ∉ c.postings.map Prod.fst) :
    (c.reader path).posting t = .ok [] := by
  have hnone : (c.directory.find? fun entry => entry.trigram = t) = none := by
    refine List.find?_eq_none.mpr fun entry hentry heq => ht ?_
    rw [← map_entriesFrom 0 c.postings]
    exact List.mem_map.mpr ⟨entry, hentry, by simpa using heq⟩
  rw [Reader.posting, h.lookup_reader, hnone]

end Fits

end Contents

end TrigramGrep.Index
