import TrigramGrep.Codec.Gaps
import TrigramGrep.Index.Record
import TrigramGrep.Posting

/-!
# What an index says, and its bytes

An index tells which roots were indexed, what the files are called, and which files hold each trigram.
`Contents.encode` gives the bytes of the index file; they depend on nothing else, so two builds that
find the same give the same file.

## Order of the sections

Behind the opening magic stand the roots, the names, the name index, the posting lists, the directory
and the trailer (`Index.Record`).
-/

namespace TrigramGrep.Index

/-- How an index is built. -/
structure Config where
  /-- The number of bytes at which lines are cut; zero for no cut. -/
  maxLineLength : Nat := 1000
  /-- The number of pairs in memory at which they are set aside as a run. -/
  spillThreshold : Nat := 4194304
  /-- The size in bytes above which a file is not indexed. -/
  maxFileSize : Nat := 1073741824
  deriving DecidableEq, Repr

/-- What an index says. -/
structure Contents where
  roots : List String
  /-- The names of the files; a file's place is its id. -/
  names : List String
  /-- The trigrams that occur, ascending, each with the files that hold it. -/
  postings : List (Trigram × Posting)
  /-- The cut that the files were indexed with. -/
  maxLineLength : Nat
  deriving DecidableEq, Repr

/-- What a finished build tells of the index file. -/
structure Summary where
  files : Nat
  trigrams : Nat
  bytes : Nat
  deriving DecidableEq, Repr

/-- A text with its length in front. -/
def encodeString (text : String) : Bytes :=
  let bytes := Bytes.ofString text
  Codec.Varint.encode (UInt32.ofNat bytes.length) ++ bytes

/-- Where each of several byte strings begins when they stand one behind the other from `start` on. -/
def startsFrom (start : Nat) : List Bytes → List Nat
  | [] => []
  | bytes :: rest => start :: startsFrom (start + bytes.length) rest

/-- The largest number of 32 bits. -/
def maxWord : Nat := UInt32.size - 1

namespace Contents

/-- The directory entries of the posting lists from `offset` on. -/
def entriesFrom (offset : Nat) : List (Trigram × Posting) → List DirectoryEntry
  | [] => []
  | (trigram, posting) :: rest =>
    let length := (Codec.Gaps.encode posting).length
    { trigram := trigram
      offset := UInt64.ofNat offset
      length := UInt32.ofNat length
      count := UInt32.ofNat posting.length } :: entriesFrom (offset + length) rest

/-- The directory entries of all posting lists. -/
def directory (c : Contents) : List DirectoryEntry := entriesFrom 0 c.postings

/-- The root table. -/
def rootTable (c : Contents) : Bytes := c.roots.flatMap encodeString

/-- The name table. -/
def nameTable (c : Contents) : Bytes := c.names.flatMap encodeString

/-- The name index: where each name begins in the name table. -/
def nameIndex (c : Contents) : Bytes :=
  (startsFrom 0 (c.names.map encodeString)).flatMap fun offset =>
    Codec.LittleEndian.encode64 (UInt64.ofNat offset)

/-- The posting lists. -/
def postingTable (c : Contents) : Bytes := c.postings.flatMap fun entry => Codec.Gaps.encode entry.2

/-- The trailer. -/
def trailer (c : Contents) : Trailer :=
  let roots := openingMagic.length
  let names := roots + c.rootTable.length
  let nameIndex := names + c.nameTable.length
  let postings := nameIndex + c.nameIndex.length
  let directory := postings + c.postingTable.length
  { rootsOffset := UInt64.ofNat roots
    rootCount := UInt32.ofNat c.roots.length
    namesOffset := UInt64.ofNat names
    nameIndexOffset := UInt64.ofNat nameIndex
    fileCount := UInt32.ofNat c.names.length
    postingsOffset := UInt64.ofNat postings
    directoryOffset := UInt64.ofNat directory
    trigramCount := UInt32.ofNat c.postings.length
    maxLineLength := UInt32.ofNat (min c.maxLineLength maxWord)
    version := formatVersion }

/-- The bytes of the index file. -/
def encode (c : Contents) : Bytes :=
  openingMagic ++ c.rootTable ++ c.nameTable ++ c.nameIndex ++ c.postingTable ++
    c.directory.flatMap DirectoryEntry.encode ++ c.trailer.encode

/-- What is told of the index file. -/
def summary (c : Contents) : Summary :=
  { files := c.trailer.fileCount.toNat
    trigrams := c.trailer.trigramCount.toNat
    bytes := c.encode.length }

end Contents

end TrigramGrep.Index
