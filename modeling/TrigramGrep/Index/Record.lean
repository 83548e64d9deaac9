import TrigramGrep.Codec.LittleEndian
import TrigramGrep.Trigram

/-!
# Records of fixed size in an index file

An index file ends in a trailer that says where its sections begin and how many items they hold; a
directory of equal-sized entries says where the posting list of each trigram lies.  Both records are
sequences of little-endian numbers without padding, and the trailer closes with eight magic bytes.
Reading looks at the front of a byte string and ignores what follows the record.

## The order of an index file

* the opening magic;
* the roots, and then the names, each a varint length and the bytes;
* the name index, one 64-bit offset into the names for each file;
* the posting lists as gaps, in ascending order of their trigrams;
* the directory;
* the trailer.

Offsets in the trailer count from the start of the file, those in the directory from the start of the
posting lists.
-/

namespace TrigramGrep.Index

open Codec.LittleEndian

/-- The bytes that open an index file. -/
def openingMagic : Bytes := Bytes.ofString "RGRPIDX1"

/-- The bytes that close an index file. -/
def closingMagic : Bytes := Bytes.ofString "RGRPEND1"

/-- The version of the format. -/
def formatVersion : UInt32 := 1

/-- Where the sections of an index file begin and what they hold. -/
structure Trailer where
  rootsOffset : UInt64
  rootCount : UInt32
  namesOffset : UInt64
  nameIndexOffset : UInt64
  fileCount : UInt32
  postingsOffset : UInt64
  directoryOffset : UInt64
  trigramCount : UInt32
  maxLineLength : UInt32
  version : UInt32
  deriving DecidableEq, Repr

namespace Trailer

/-- The number of bytes of a trailer. -/
def size : Nat := 68

/-- The bytes of a trailer. -/
def encode (t : Trailer) : Bytes :=
  encode64 t.rootsOffset ++ encode32 t.rootCount ++ encode64 t.namesOffset ++
  encode64 t.nameIndexOffset ++ encode32 t.fileCount ++ encode64 t.postingsOffset ++
  encode64 t.directoryOffset ++ encode32 t.trigramCount ++ encode32 t.maxLineLength ++
  encode32 t.version ++ closingMagic

/-- The trailer at the front of a byte string; `none` when the bytes are too few or the closing magic
is not in its place. -/
def decode? (bytes : Bytes) : Option Trailer :=
  if slice? bytes 60 8 ≠ some closingMagic then none
  else do
    let rootsOffset ← read64? bytes 0
    let rootCount ← read32? bytes 8
    let namesOffset ← read64? bytes 12
    let nameIndexOffset ← read64? bytes 20
    let fileCount ← read32? bytes 28
    let postingsOffset ← read64? bytes 32
    let directoryOffset ← read64? bytes 40
    let trigramCount ← read32? bytes 48
    let maxLineLength ← read32? bytes 52
    let version ← read32? bytes 56
    return { rootsOffset, rootCount, namesOffset, nameIndexOffset, fileCount, postingsOffset,
             directoryOffset, trigramCount, maxLineLength, version }

end Trailer

/-- Where the posting list of one trigram lies and how many ids it holds. -/
structure DirectoryEntry where
  trigram : Trigram
  offset : UInt64
  length : UInt32
  count : UInt32
  deriving DecidableEq, Repr

namespace DirectoryEntry

/-- The number of bytes of an entry. -/
def size : Nat := 20

/-- The bytes of an entry. -/
def encode (e : DirectoryEntry) : Bytes :=
  encode32 e.trigram ++ encode64 e.offset ++ encode32 e.length ++ encode32 e.count

/-- The entry at the front of a byte string, if the bytes suffice. -/
def decode? (bytes : Bytes) : Option DirectoryEntry := do
  let trigram ← read32? bytes 0
  let offset ← read64? bytes 4
  let length ← read32? bytes 12
  let count ← read32? bytes 16
  return { trigram, offset, length, count }

end DirectoryEntry

end TrigramGrep.Index
