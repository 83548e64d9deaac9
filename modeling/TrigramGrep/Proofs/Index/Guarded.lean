import Mathlib.Data.List.Forall2
import TrigramGrep.Index.Reader
import TrigramGrep.Output
import TrigramGrep.Proofs.Codec.Guarded
import TrigramGrep.Proofs.Text.Utf8

/-!
# An index is read without a wrong step

The functions of a reader once more, with each sum, product, difference and range that a machine could get wrong
as a step that may stop.  Whatever the bytes of a file are, as long as they are fewer than 2⁶³, opening it makes no
wrong step, and neither does any access of a reader that was opened.

## Shape of the proof

* Opening checks that the sections follow one another and fill the file (`Reader.IsLaidOut`).  Every place that an
  access computes from the trailer is thereby a place in the file.
* Every place that an access computes from other bytes is compared with the end of a section before it is used, and
  a sum that could leave its word is a bounded one, which is then too large for the comparison.
* A text is given together with its range in the file (`Placed`), so that it can be said where it lies.
-/

namespace TrigramGrep.Index

/-! ## Opening -/

/-- The sections of an opened index follow one another and fill the file in front of the trailer. -/
structure Reader.IsLaidOut (r : Reader) : Prop where
  size : r.data.length < 2 ^ 63
  roots_le_names : r.trailer.rootsOffset.toNat ≤ r.trailer.namesOffset.toNat
  names_le_nameIndex : r.trailer.namesOffset.toNat ≤ r.trailer.nameIndexOffset.toNat
  nameIndex_add : r.trailer.nameIndexOffset.toNat + r.trailer.fileCount.toNat * 8 =
    r.trailer.postingsOffset.toNat
  postings_le_directory : r.trailer.postingsOffset.toNat ≤ r.trailer.directoryOffset.toNat
  directory_add : r.trailer.directoryOffset.toNat + r.trailer.trigramCount.toNat * DirectoryEntry.size =
    r.data.length - Trailer.size

theorem Reader.isLaidOut_of_ofBytes {path : Path} {data : Bytes} {r : Reader} (hsize : data.length < 2 ^ 63)
    (h : Reader.ofBytes path data = .ok r) : r.IsLaidOut ∧ r.data = data := by
  rw [Reader.ofBytes] at h
  split at h
  · cases h
  split at h
  · cases h
  split at h
  · cases h
  split at h
  · cases h
  split at h
  · cases h
  · next trailer _ _ _ hlayout =>
    cases h
    rw [checkLayout] at hlayout
    split at hlayout
    · cases hlayout
    · next hordered =>
      rw [Classical.not_not] at hordered
      obtain ⟨-, hroots, hnames, -, hpostings, -⟩ := hordered
      split at hlayout
      · cases hlayout
      · next hnameIndex =>
        split at hlayout
        · cases hlayout
        · next hdirectory =>
          exact ⟨⟨hsize, UInt64.le_iff_toNat_le.mp hroots, UInt64.le_iff_toNat_le.mp hnames,
            Classical.not_not.mp hnameIndex, UInt64.le_iff_toNat_le.mp hpostings,
            Classical.not_not.mp hdirectory⟩, rfl⟩

namespace Guarded

/-- The check of the sections, step by step. -/
def checkLayout (path : Path) (t : Trailer) (size : Nat) : Outcome OpenFault Unit := do
  let ⟨stop, _⟩ ← Outcome.difference size Trailer.size
  if ¬ (openingMagic.length ≤ t.rootsOffset.toNat ∧ t.rootsOffset ≤ t.namesOffset ∧
      t.namesOffset ≤ t.nameIndexOffset ∧ t.nameIndexOffset ≤ t.postingsOffset ∧
      t.postingsOffset ≤ t.directoryOffset ∧ t.directoryOffset.toNat ≤ stop) then
    .fault (.sectionsOutOfOrder path)
  else
    let ⟨length, _⟩ ← Outcome.product 64 t.fileCount.toNat 8
    let ⟨nameIndexStop, _⟩ ← Outcome.sum 64 t.nameIndexOffset.toNat length
    if nameIndexStop ≠ t.postingsOffset.toNat then .fault (.nameIndexSize path t.fileCount)
    else
      let ⟨length, _⟩ ← Outcome.product 64 t.trigramCount.toNat DirectoryEntry.size
      let ⟨directoryStop, _⟩ ← Outcome.sum 64 t.directoryOffset.toNat length
      if directoryStop ≠ stop then .fault (.directorySize path t.trigramCount)
      else .answer ()

/-- The trailer at the front of a byte string, step by step.  Its numbers are read by their places, and reading one
where the bytes end gives nothing. -/
def trailer? (bytes : Bytes) : Outcome OpenFault (Option Trailer) :=
  if bytes.length < Trailer.size then .answer none
  else do
    let magic ← Outcome.slice bytes 60 68
    if magic ≠ closingMagic then .answer none else .answer (Trailer.decode? bytes)

/-- Opening an index, step by step. -/
def ofBytes (path : Path) (data : Bytes) : Outcome OpenFault Reader :=
  if data.length < openingMagic.length + Trailer.size then .fault (.truncated path data.length)
  else do
    let magic ← Outcome.slice data 0 openingMagic.length
    if magic ≠ openingMagic then .fault (.badMagic path)
    else
      let ⟨place, _⟩ ← Outcome.difference data.length Trailer.size
      let back ← Outcome.slice data place data.length
      match ← trailer? back with
      | none => .fault (.badTrailer path)
      | some trailer =>
        if trailer.version ≠ formatVersion then .fault (.otherVersion path trailer.version)
        else
          checkLayout path trailer data.length
          .answer { path := path, data := data, trailer := trailer }

theorem checkLayout_eq (path : Path) (t : Trailer) {size : Nat} (hlow : Trailer.size ≤ size)
    (hhigh : size < 2 ^ 63) : checkLayout path t size = .ofExcept (Index.checkLayout path t size) := by
  have hfiles := t.fileCount.toNat_lt
  have htrigrams := t.trigramCount.toNat_lt
  rw [checkLayout, Index.checkLayout, Outcome.difference_eq hlow, Outcome.answer_bind]
  dsimp only
  by_cases hordered : openingMagic.length ≤ t.rootsOffset.toNat ∧ t.rootsOffset ≤ t.namesOffset ∧
      t.namesOffset ≤ t.nameIndexOffset ∧ t.nameIndexOffset ≤ t.postingsOffset ∧
      t.postingsOffset ≤ t.directoryOffset ∧ t.directoryOffset.toNat ≤ size - Trailer.size
  · have hnameIndex : t.nameIndexOffset.toNat ≤ t.directoryOffset.toNat :=
      UInt64.le_iff_toNat_le.mp (UInt64.le_trans hordered.2.2.2.1 hordered.2.2.2.2.1)
    have hdirectory := hordered.2.2.2.2.2
    have hdirectoryLength : t.trigramCount.toNat * DirectoryEntry.size = t.trigramCount.toNat * 20 := rfl
    rw [if_neg (not_not_intro hordered), if_neg (not_not_intro hordered), Outcome.product_eq (by omega),
      Outcome.answer_bind]
    dsimp only
    rw [Outcome.sum_eq (by omega), Outcome.answer_bind]
    dsimp only
    split
    · rfl
    rw [Outcome.product_eq (by omega), Outcome.answer_bind]
    dsimp only
    rw [Outcome.sum_eq (by omega), Outcome.answer_bind]
    dsimp only
    split <;> rfl
  · rw [if_pos hordered, if_pos hordered]
    rfl

theorem trailer?_eq (bytes : Bytes) : trailer? bytes = .answer (Trailer.decode? bytes) := by
  rw [trailer?]
  have hsize : Trailer.size = 68 := rfl
  by_cases hlength : bytes.length < Trailer.size
  · have hslice : Codec.LittleEndian.slice? bytes 60 8 = none := by
      rw [Codec.LittleEndian.slice?, if_neg]
      rw [List.length_take, List.length_drop]
      omega
    rw [if_pos hlength, Trailer.decode?, hslice, if_pos (by simp)]
  · have hslice : Codec.LittleEndian.slice? bytes 60 8 = some ((bytes.drop 60).take 8) := by
      rw [Codec.LittleEndian.slice?, if_pos]
      rw [List.length_take, List.length_drop]
      omega
    rw [if_neg hlength, Outcome.slice_eq (by omega) (by omega), Outcome.answer_bind]
    split
    · next hmagic => rw [Trailer.decode?, hslice, if_pos (by simpa using hmagic)]
    · rfl

/-- Opening makes no wrong step. -/
theorem ofBytes_eq (path : Path) {data : Bytes} (h : data.length < 2 ^ 63) :
    ofBytes path data = .ofExcept (Reader.ofBytes path data) := by
  rw [ofBytes, Reader.ofBytes]
  dsimp only
  split
  · rfl
  next hlength =>
  rw [Outcome.slice_eq (Nat.zero_le _) (by omega), Outcome.answer_bind, List.drop_zero, Nat.sub_zero]
  split
  · rfl
  rw [Outcome.difference_eq (by omega), Outcome.answer_bind]
  dsimp only
  rw [Outcome.slice_length (by omega), Outcome.answer_bind, trailer?_eq, Outcome.answer_bind]
  cases Trailer.decode? (data.drop (data.length - Trailer.size)) with
  | none => rfl
  | some trailer =>
    dsimp only
    split
    · rfl
    rw [checkLayout_eq path trailer (by omega) h]
    cases Index.checkLayout path trailer data.length <;> rfl

/-! ## Texts -/

/-- A text with its range in a file. -/
structure Placed where
  span : Span
  text : String

/-- A text is what stands in its range, and the range lies in the file between two places. -/
structure Placed.LiesIn (p : Placed) (data : Bytes) (low high : Nat) : Prop where
  low_le : low ≤ p.span.start
  start_le : p.span.start ≤ p.span.stop
  stop_le : p.span.stop ≤ high
  stop_le_length : p.span.stop ≤ data.length
  bytes_eq : sliceOf data p.span.start p.span.stop = Bytes.ofString p.text

/-- A text lies where it was found, and in every wider range. -/
theorem Placed.LiesIn.mono {p : Placed} {data : Bytes} {low low' high : Nat} (h : p.LiesIn data low high)
    (hlow : low' ≤ low) : p.LiesIn data low' high :=
  { h with low_le := Nat.le_trans hlow h.low_le }

/-- The text with its length in front at a position, step by step, and the position behind it. -/
def stringAt (r : Reader) (position limit : Nat) : Outcome ReadFault (Placed × Nat) :=
  let limit := min limit r.data.length
  if limit ≤ position then .fault (.stringPastEnd position)
  else do
    let front ← Outcome.slice r.data position limit
    match ← Codec.Varint.guarded front with
    | none => .fault .stringLength
    | some (length, used) =>
      let ⟨start, _⟩ ← Outcome.sum 64 position used
      let stop := boundedAdd start length.toNat
      if limit < stop then .fault (.stringOverrun position)
      else
        let bytes ← Outcome.slice r.data start stop
        match Text.Utf8.decode bytes with
        | .error (fault, place) => .fault (.notUtf8 fault place)
        | .ok text => .answer (⟨⟨start, stop⟩, text⟩, stop)

/-- A number of texts, one behind the other, step by step. -/
def stringsFrom (r : Reader) (limit : Nat) : (count position : Nat) → Outcome ReadFault (List Placed)
  | 0, _ => .answer []
  | count + 1, position => do
    let (placed, next) ← stringAt r position limit
    let texts ← stringsFrom r limit count next
    .answer (placed :: texts)

/-- The roots, step by step: the room for them is set aside first, two long words each. -/
def roots (r : Reader) : Outcome ReadFault (List Placed) := do
  Outcome.reserve 16 r.trailer.rootCount.toNat
  stringsFrom r r.trailer.namesOffset.toNat r.trailer.rootCount.toNat r.trailer.rootsOffset.toNat

/-- The name of a file, step by step. -/
def name (r : Reader) (id : FileId) : Outcome ReadFault Placed :=
  if r.trailer.fileCount ≤ id then .fault (.fileOutOfRange id r.trailer.fileCount)
  else do
    let ⟨distance, _⟩ ← Outcome.product 64 id.toNat 8
    let ⟨place, _⟩ ← Outcome.sum 64 r.trailer.nameIndexOffset.toNat distance
    match Codec.LittleEndian.read64? r.data place with
    | none => .fault .nameIndex
    | some offset =>
      let start := boundedAdd r.trailer.namesOffset.toNat offset.toNat
      let (placed, _) ← stringAt r start r.trailer.nameIndexOffset.toNat
      .answer placed

variable {r : Reader}

theorem boundedAdd_lt (a b : Nat) : boundedAdd a b < 2 ^ 64 := by
  rw [boundedAdd, maxLongWord, UInt64.size]
  omega

theorem le_boundedAdd {a b : Nat} (ha : a < 2 ^ 64) : a ≤ boundedAdd a b := by
  rw [boundedAdd, maxLongWord, UInt64.size]
  omega

/-- Reading a text makes no wrong step, and the text lies where it was looked for. -/
theorem stringAt_agrees (hsize : r.data.length < 2 ^ 63) (position limit : Nat) :
    Outcome.Agrees (fun p q => p.1.text = q.1 ∧ p.2 = q.2 ∧ p.1.LiesIn r.data position limit ∧ position ≤ p.2)
      (stringAt r position limit) (r.stringAt position limit) := by
  rw [stringAt, Reader.stringAt]
  dsimp only
  split
  · rfl
  next hposition =>
  have hfront : (sliceOf r.data position (min limit r.data.length)).length =
      min limit r.data.length - position := by
    rw [sliceOf, List.length_take, List.length_drop]
    omega
  rw [Outcome.slice_eq (by omega) (by omega), Outcome.answer_bind, ← sliceOf,
    Codec.Varint.guarded_eq (by omega), Outcome.answer_bind]
  cases hlength : Codec.Varint.decode? (sliceOf r.data position (min limit r.data.length)) with
  | none => rfl
  | some found =>
    obtain ⟨length, used⟩ := found
    have hused := Codec.Varint.used_le hlength
    dsimp only
    rw [Outcome.sum_eq (by omega), Outcome.answer_bind]
    dsimp only
    split
    · rfl
    next hstop =>
    have hstart : position + used ≤ boundedAdd (position + used) length.toNat := le_boundedAdd (by omega)
    rw [Outcome.slice_eq hstart (by omega), Outcome.answer_bind, ← sliceOf]
    cases htext : Text.Utf8.decode
        (sliceOf r.data (position + used) (boundedAdd (position + used) length.toNat)) with
    | error fault => rfl
    | ok text =>
      refine ⟨rfl, rfl, ⟨?_, hstart, ?_, ?_, (Text.Utf8.ofString_of_decode htext).symm⟩, ?_⟩ <;>
        dsimp only <;> omega

/-- Texts with their ranges are the texts of a list, all in one section. -/
def ListedIn (data : Bytes) (low high : Nat) : List Placed → List String → Prop :=
  List.Forall₂ fun placed text => placed.text = text ∧ placed.LiesIn data low high

theorem stringsFrom_succ (limit count position : Nat) :
    r.stringsFrom limit (count + 1) position = r.stringAt position limit >>= fun found =>
      r.stringsFrom limit count found.2 >>= fun texts => .ok (found.1 :: texts) := by
  rw [Reader.stringsFrom]
  cases r.stringAt position limit with
  | error fault => rfl
  | ok found =>
    show _ = r.stringsFrom limit count found.2 >>= fun texts => .ok (found.1 :: texts)
    cases hrest : r.stringsFrom limit count found.2 <;> simp only [hrest] <;> rfl

theorem stringsFrom_agrees (hsize : r.data.length < 2 ^ 63) (limit count : Nat) {low position : Nat}
    (hlow : low ≤ position) : Outcome.Agrees (ListedIn r.data low limit) (stringsFrom r limit count position)
      (r.stringsFrom limit count position) := by
  induction count generalizing position with
  | zero => exact List.Forall₂.nil
  | succ count ih =>
    rw [stringsFrom, stringsFrom_succ]
    refine (stringAt_agrees hsize position limit).bind ?_
    rintro ⟨placed, next⟩ ⟨text, next'⟩ ⟨htext, rfl, hlies, hnext⟩ -
    refine (ih (Nat.le_trans hlow hnext)).bind fun placeds texts hlisted _ => ?_
    exact List.Forall₂.cons ⟨htext, hlies.mono hlow⟩ hlisted

/-- Reading the roots makes no wrong step, and they lie in their section. -/
theorem roots_agrees (h : r.IsLaidOut) :
    Outcome.Agrees (ListedIn r.data r.trailer.rootsOffset.toNat r.trailer.namesOffset.toNat) (roots r) r.roots := by
  have hcount := r.trailer.rootCount.toNat_lt
  rw [roots, Outcome.reserve_eq (by omega), Outcome.answer_bind]
  exact stringsFrom_agrees h.size _ _ (Nat.le_refl _)

theorem name_of_offset {id : FileId} {offset : UInt64} (hid : ¬ r.trailer.fileCount ≤ id)
    (h : Codec.LittleEndian.read64? r.data (r.trailer.nameIndexOffset.toNat + id.toNat * 8) = some offset) :
    r.name id =
      r.stringAt (boundedAdd r.trailer.namesOffset.toNat offset.toNat) r.trailer.nameIndexOffset.toNat >>=
        fun found => .ok found.1 := by
  rw [Reader.name, if_neg hid, h]
  dsimp only
  cases r.stringAt _ _ <;> rfl

/-- Reading a name makes no wrong step, and it lies in the section of the names. -/
theorem name_agrees (h : r.IsLaidOut) (id : FileId) :
    Outcome.Agrees (fun placed text => placed.text = text ∧
        placed.LiesIn r.data r.trailer.namesOffset.toNat r.trailer.nameIndexOffset.toNat)
      (name r id) (r.name id) := by
  have hsize := h.size
  have hlayout := h.nameIndex_add
  have hpostings := h.postings_le_directory
  have hdirectory := h.directory_add
  rw [name]
  by_cases hid : r.trailer.fileCount ≤ id
  · rw [Reader.name, if_pos hid, if_pos hid]
    rfl
  have hlt : id.toNat < r.trailer.fileCount.toNat := UInt32.lt_iff_toNat_lt.mp (UInt32.not_le.mp hid)
  rw [if_neg hid, Outcome.product_eq (by omega), Outcome.answer_bind]
  dsimp only
  rw [Outcome.sum_eq (by omega), Outcome.answer_bind]
  dsimp only
  cases hread : Codec.LittleEndian.read64? r.data (r.trailer.nameIndexOffset.toNat + id.toNat * 8) with
  | none =>
    rw [Reader.name, if_neg hid, hread]
    rfl
  | some offset =>
    rw [name_of_offset hid hread]
    refine (stringAt_agrees hsize _ _).bind ?_
    rintro ⟨placed, next⟩ ⟨text, next'⟩ ⟨htext, -, hlies, -⟩ -
    exact ⟨htext, hlies.mono (le_boundedAdd r.trailer.namesOffset.toNat_lt)⟩

end Guarded

end TrigramGrep.Index
