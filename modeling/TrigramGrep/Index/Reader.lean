import TrigramGrep.Codec.Gaps
import TrigramGrep.Index.Record
import TrigramGrep.FileSystem
import TrigramGrep.Posting

/-!
# Reading an index

An index file may be damaged in any way.  Opening it checks the magic bytes, the version, and that the
sections follow one another and fill the file; every later access checks what it relies on beyond
that.  So whatever the bytes are, each access gives an answer or a fault, and looks at no byte outside
of the section that it belongs to.

Nothing is decoded when an index is opened: names, roots and posting lists are read where they are
asked for.
-/

namespace TrigramGrep.Index

/-- Why a file is no index. -/
inductive OpenFault where
  | unopened (path : Path) (error : SystemError)
  /-- The file can be opened but has no bytes, as a directory. -/
  | unmapped (error : SystemError)
  | truncated (path : Path) (size : Nat)
  | badMagic (path : Path)
  | badTrailer (path : Path)
  | otherVersion (path : Path) (version : UInt32)
  | sectionsOutOfOrder (path : Path)
  | nameIndexSize (path : Path) (files : UInt32)
  | directorySize (path : Path) (trigrams : UInt32)
  deriving DecidableEq, Repr

namespace OpenFault

/-- A fault in words; `wording` says how an error of the system is put. -/
def message (wording : SystemError → String) : OpenFault → String
  | .unopened path error => "Failed to open index " ++ path.display ++ ": " ++ wording error
  | .unmapped error => wording error
  | .truncated path size =>
    "corrupt index " ++ path.display ++ ": truncated (" ++ toString size ++ " bytes)"
  | .badMagic path => "corrupt index " ++ path.display ++ ": bad magic"
  | .badTrailer path => "corrupt index " ++ path.display ++ ": bad trailer"
  | .otherVersion path version =>
    "index " ++ path.display ++ " has version " ++ toString version.toNat ++ ", expected " ++
      toString formatVersion.toNat ++ "; rebuild it"
  | .sectionsOutOfOrder path => "corrupt index " ++ path.display ++ ": sections out of order"
  | .nameIndexSize path files =>
    "corrupt index " ++ path.display ++ ": name index size does not match file count " ++
      toString files.toNat
  | .directorySize path trigrams =>
    "corrupt index " ++ path.display ++ ": directory size does not match trigram count " ++
      toString trigrams.toNat

end OpenFault

/-- Why an index has no answer. -/
inductive ReadFault where
  | fileOutOfRange (id : FileId) (files : UInt32)
  | nameIndex
  | directory
  | directoryEntry
  | postingOutOfBounds (trigram : Trigram)
  | badPosting (trigram : Trigram)
  | missingFile (trigram : Trigram)
  | stringPastEnd (position : Nat)
  | stringLength
  | stringOverrun (position : Nat)
  | notUtf8 (fault : Text.Utf8.Fault) (position : Nat)
  deriving DecidableEq, Repr

namespace ReadFault

/-- A fault in words. -/
def message : ReadFault → String
  | .fileOutOfRange id files =>
    "corrupt index: file id " ++ toString id.toNat ++ " out of range (" ++ toString files.toNat ++
      " files)"
  | .nameIndex => "corrupt index: name index"
  | .directory => "corrupt index: directory"
  | .directoryEntry => "corrupt index: directory entry"
  | .postingOutOfBounds t => "corrupt index: posting list for " ++ t.toHex ++ " out of bounds"
  | .badPosting t => "corrupt index: bad posting list for " ++ t.toHex
  | .missingFile t => "corrupt index: posting list for " ++ t.toHex ++ " names a missing file"
  | .stringPastEnd position =>
    "corrupt index: string at " ++ toString position ++ " past end of table"
  | .stringLength => "corrupt index: string length"
  | .stringOverrun position =>
    "corrupt index: string at " ++ toString position ++ " overruns its table"
  | .notUtf8 fault position =>
    "corrupt index: path is not UTF-8: " ++ fault.message position

end ReadFault

/-- The largest number of 64 bits. -/
def maxLongWord : Nat := UInt64.size - 1

/-- The sum of two numbers, but never more than the largest of 64 bits. -/
def boundedAdd (a b : Nat) : Nat := min (a + b) maxLongWord

/-- The bytes of a range. -/
def sliceOf (data : Bytes) (start stop : Nat) : Bytes := (data.drop start).take (stop - start)

/-- An index that has been opened. -/
structure Reader where
  path : Path
  data : Bytes
  trailer : Trailer
  deriving Repr

/-- Whether the sections that a trailer tells of follow one another and fill a file of some size. -/
def checkLayout (path : Path) (t : Trailer) (size : Nat) : Except OpenFault Unit :=
  let stop := size - Trailer.size
  if ¬ (openingMagic.length ≤ t.rootsOffset.toNat ∧ t.rootsOffset ≤ t.namesOffset ∧
      t.namesOffset ≤ t.nameIndexOffset ∧ t.nameIndexOffset ≤ t.postingsOffset ∧
      t.postingsOffset ≤ t.directoryOffset ∧ t.directoryOffset.toNat ≤ stop) then
    .error (.sectionsOutOfOrder path)
  else if t.nameIndexOffset.toNat + t.fileCount.toNat * 8 ≠ t.postingsOffset.toNat then
    .error (.nameIndexSize path t.fileCount)
  else if t.directoryOffset.toNat + t.trigramCount.toNat * DirectoryEntry.size ≠ stop then
    .error (.directorySize path t.trigramCount)
  else .ok ()

namespace Reader

/-- Opens an index given its bytes. -/
def ofBytes (path : Path) (data : Bytes) : Except OpenFault Reader :=
  let size := data.length
  if size < openingMagic.length + Trailer.size then .error (.truncated path size)
  else if data.take openingMagic.length ≠ openingMagic then .error (.badMagic path)
  else
    match Trailer.decode? (data.drop (size - Trailer.size)) with
    | none => .error (.badTrailer path)
    | some trailer =>
      if trailer.version ≠ formatVersion then .error (.otherVersion path trailer.version)
      else
        match checkLayout path trailer size with
        | .error fault => .error fault
        | .ok () => .ok { path := path, data := data, trailer := trailer }

/-- Opens the index that a path leads to. -/
def openFile (fs : FileSystem) (path : Path) : Except OpenFault Reader :=
  match fs.node path with
  | .error e => .error (.unopened path e)
  | .ok (.file content) => ofBytes path content
  | .ok (.special (some _)) => .error (.truncated path 0)
  | .ok (.special none) => .error (.unopened path .noAddress)
  | .ok _ => .error (.unmapped .noDevice)

/-- The number of files; their ids are the numbers below it. -/
def fileCount (r : Reader) : Nat := r.trailer.fileCount.toNat

/-- The cut that the files were indexed with. -/
def maxLineLength (r : Reader) : Nat := r.trailer.maxLineLength.toNat

/-! ## Names and roots -/

/-- The text with its length in front at a position, and the position behind it; both end before
`limit`. -/
def stringAt (r : Reader) (position limit : Nat) : Except ReadFault (String × Nat) :=
  let limit := min limit r.data.length
  if limit ≤ position then .error (.stringPastEnd position)
  else
    match Codec.Varint.decode? (sliceOf r.data position limit) with
    | none => .error .stringLength
    | some (length, used) =>
      let start := position + used
      let stop := boundedAdd start length.toNat
      if limit < stop then .error (.stringOverrun position)
      else
        match Text.Utf8.decode (sliceOf r.data start stop) with
        | .error (fault, place) => .error (.notUtf8 fault place)
        | .ok text => .ok (text, stop)

/-- A number of texts, one behind the other. -/
def stringsFrom (r : Reader) (limit : Nat) : (count position : Nat) → Except ReadFault (List String)
  | 0, _ => .ok []
  | count + 1, position =>
    match r.stringAt position limit with
    | .error fault => .error fault
    | .ok (text, next) =>
      match stringsFrom r limit count next with
      | .error fault => .error fault
      | .ok texts => .ok (text :: texts)

/-- The roots, in the order in which they were indexed. -/
def roots (r : Reader) : Except ReadFault (List String) :=
  r.stringsFrom r.trailer.namesOffset.toNat r.trailer.rootCount.toNat r.trailer.rootsOffset.toNat

/-- The name of a file. -/
def name (r : Reader) (id : FileId) : Except ReadFault String :=
  if r.trailer.fileCount ≤ id then .error (.fileOutOfRange id r.trailer.fileCount)
  else
    match Codec.LittleEndian.read64? r.data (r.trailer.nameIndexOffset.toNat + id.toNat * 8) with
    | none => .error .nameIndex
    | some offset =>
      let start := boundedAdd r.trailer.namesOffset.toNat offset.toNat
      match r.stringAt start r.trailer.nameIndexOffset.toNat with
      | .error fault => .error fault
      | .ok (text, _) => .ok text

/-! ## Posting lists -/

/-- The entry of a trigram among those numbered from `low` up to but not including `high`, which are
in the order of their trigrams. -/
def findEntry (r : Reader) (trigram : Trigram) (low high : Nat) :
    Except ReadFault (Option DirectoryEntry) :=
  if low < high then
    let middle := low + (high - low) / 2
    let place := r.trailer.directoryOffset.toNat + middle * DirectoryEntry.size
    match Codec.LittleEndian.read32? r.data place with
    | none => .error .directory
    | some key =>
      if key < trigram then findEntry r trigram (middle + 1) high
      else if trigram < key then findEntry r trigram low middle
      else
        match DirectoryEntry.decode? (r.data.drop place) with
        | none => .error .directoryEntry
        | some entry => .ok (some entry)
  else .ok none
termination_by high - low

/-- The directory entry of a trigram, if it has one. -/
def entry? (r : Reader) (trigram : Trigram) : Except ReadFault (Option DirectoryEntry) :=
  r.findEntry trigram 0 r.trailer.trigramCount.toNat

/-- The posting list that an entry tells of. -/
def postingOf (r : Reader) (trigram : Trigram) (entry : DirectoryEntry) :
    Except ReadFault Posting :=
  let start := boundedAdd r.trailer.postingsOffset.toNat entry.offset.toNat
  let stop := boundedAdd start entry.length.toNat
  if r.trailer.directoryOffset.toNat < stop then .error (.postingOutOfBounds trigram)
  else
    -- there is always room for a count of 32 bits (`Gaps.maxCount`)
    match Codec.Gaps.decode? (sliceOf r.data start stop) entry.count.toNat with
    | none => .error (.badPosting trigram)
    | some ids =>
      if ids.getLast?.any (r.trailer.fileCount ≤ ·) then .error (.missingFile trigram)
      else .ok ids

/-- The files that hold a trigram, ascending; none if it does not occur. -/
def posting (r : Reader) (trigram : Trigram) : Except ReadFault Posting :=
  match r.entry? trigram with
  | .error fault => .error fault
  | .ok none => .ok []
  | .ok (some entry) => r.postingOf trigram entry

/-- The files of a list that hold a trigram.  Nothing is read for the empty list. -/
def postingAnd (r : Reader) (list : Posting) (trigram : Trigram) : Except ReadFault Posting :=
  if list.isEmpty then .ok []
  else
    match r.posting trigram with
    | .error fault => .error fault
    | .ok ids => .ok (list.inter ids)

/-- The files of a list and those that hold a trigram. -/
def postingOr (r : Reader) (list : Posting) (trigram : Trigram) : Except ReadFault Posting :=
  match r.posting trigram with
  | .error fault => .error fault
  | .ok ids => .ok (list.union ids)

/-- All files. -/
def allFiles (r : Reader) : Posting := (List.range r.fileCount).map UInt32.ofNat

end Reader

end TrigramGrep.Index
