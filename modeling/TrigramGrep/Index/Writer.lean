import TrigramGrep.Index.Contents
import TrigramGrep.Index.Run
import TrigramGrep.FileSystem.Temporary
import TrigramGrep.FileSystem.Walk
import TrigramGrep.Trigram.Bitmap
import TrigramGrep.View

/-!
# Building an index in bounded memory

A writer takes files one after the other and gives each the next id.  The pairs of their trigrams and
ids pile up in a buffer; when it reaches the threshold it is set aside as a sorted run.  What the writer
says in the end (`Writer.contents`) comes from merging all runs with the rest of the buffer.

Runs lie in files that have no name; of the files that have one, only `Writer.flush` changes any.  It
writes to a temporary file beside the index and gives that file the name of the index when it is
complete, so that a failure leaves an older index as it was.

## What may go wrong

A `Host` is the machine that a writer runs on: what it refuses, and how it has temporary files and walks
directories.  If a run cannot be written, the call that wanted it fails, but the file that it brought has
its id and stays, and so do all pairs; the next call tries again.
-/

namespace TrigramGrep.Index

/-- The trigrams of the searchable view of a content, if the content is text. -/
def trigramsOf? (config : Config) (content : Bytes) : Option (List Trigram) :=
  if View.isText content then some (Trigram.extract (View.view content config.maxLineLength))
  else none

/-- Content that is handed over bit by bit. -/
structure Stream where
  /-- What has come before the end or the failure. -/
  content : Bytes
  /-- Why the stream broke off before its end, if it did. -/
  failure : Option String := none
  deriving DecidableEq, Repr

/-- An index in the making. -/
structure Writer where
  config : Config
  roots : Array String := #[]
  names : Array String := #[]
  /-- The pairs that are not in a run yet. -/
  buffer : Array Pair := #[]
  /-- The runs that were set aside, the first one first. -/
  runs : Array SpilledRun := #[]
  deriving Repr

/-- Why a buffer cannot be set aside. -/
inductive SpillFault where
  | create (error : SystemError)
  | write (error : SystemError)
  | finish (error : SystemError)
  | rewind (error : SystemError)
  deriving DecidableEq, Repr

/-- A fault in words; `wording` says how an error of the system is put. -/
def SpillFault.message (wording : SystemError → String) : SpillFault → String
  | .create error => "Failed to create spill file: " ++ wording error
  | .finish error => "Failed to write spill run: " ++ wording error
  | .write error | .rewind error => wording error

/-- Why an index cannot be written. -/
inductive WriteFault where
  | tooManyFiles
  | spill (fault : SpillFault)
  | run (error : SystemError)
  | directory (path : Path) (error : SystemError)
  | temporary (path : Path) (error : SystemError)
  | content (error : SystemError)
  | index (path : Path) (error : SystemError)
  deriving DecidableEq, Repr

namespace WriteFault

/-- A fault in words; `wording` says how an error of the system is put. -/
def message (wording : SystemError → String) : WriteFault → String
  | .tooManyFiles => "too many files for one index"
  | .spill fault => fault.message wording
  | .run error => "Failed to read spill run: " ++ wording error
  | .directory path error => "Failed to create " ++ path.display ++ ": " ++ wording error
  | .temporary path error =>
    "Failed to create temp index in " ++ path.display ++ ": " ++ wording error
  | .content error => wording error
  | .index path error => "Failed to write " ++ path.display ++ ": " ++ wording error

end WriteFault

/-- The machine that an index is built on. -/
structure Host extends FileSystem.Obstacles where
  temporaries : TemporaryFiles
  walk : Walker
  /-- Why a writer that has taken so many files cannot set its buffer aside, if it cannot. -/
  spill : (files : Nat) → Option SpillFault
  /-- How many bytes of an index are written before a run cannot be read, and why it cannot. -/
  readRuns : Option (Nat × SystemError)

/-- A machine that refuses nothing. -/
def Host.usual : Host :=
  { FileSystem.Obstacles.none with
    temporaries := .numbered
    walk := .sorted
    spill := fun _ => none
    readRuns := none }

namespace Writer

/-- The writer that has taken nothing yet. -/
def new (config : Config) : Writer := { config := config }

/-- Records roots of the index. -/
def addRoots (w : Writer) (roots : List String) : Writer :=
  { w with roots := w.roots ++ roots.toArray }

/-- Sets the buffer aside as a run.  Where that fails, the buffer is left sorted, with each pair once. -/
def spill (w : Writer) (host : Host) : Except WriteFault Unit × Writer :=
  match host.spill w.names.size with
  | some fault => (.error (.spill fault), { w with buffer := (Run.ofPairs w.buffer.toList).toArray })
  | none =>
    (.ok (), { w with runs := w.runs.push (SpilledRun.ofPairs w.buffer.toList), buffer := #[] })

/-- Sets the buffer aside if it has reached the threshold. -/
def settle (w : Writer) (host : Host) : Except WriteFault Unit × Writer :=
  if max w.config.spillThreshold 1 ≤ w.buffer.size then w.spill host else (.ok (), w)

/-- Takes a file with its trigrams and gives it the next id. -/
def addTrigrams (w : Writer) (name : String) (trigrams : List Trigram) (host : Host := .usual) :
    Except WriteFault FileId × Writer :=
  if maxWord ≤ w.names.size then (.error .tooManyFiles, w)
  else
    let id : FileId := UInt32.ofNat w.names.size
    let w :=
      { w with
        names := w.names.push name
        buffer := trigrams.foldl (fun buffer t => buffer.push (Pair.pack t id)) w.buffer }
    match w.settle host with
    | (.error fault, w) => (.error fault, w)
    | (.ok (), w) => (.ok id, w)

/-- Takes a file with what was found in it: its trigrams, or nothing because it is passed over.  Then it gets no
id. -/
def addFound (w : Writer) (name : String) (found : Option (List Trigram)) (host : Host) :
    Except WriteFault (Option FileId) × Writer :=
  match found with
  | none => (.ok none, w)
  | some trigrams =>
    match w.addTrigrams name trigrams host with
    | (.error fault, w) => (.error fault, w)
    | (.ok id, w) => (.ok (some id), w)

/-- Takes a file with its content.  What is not text is passed over and gets no id. -/
def addContent (w : Writer) (name : String) (content : Bytes) (host : Host := .usual) :
    Except WriteFault (Option FileId) × Writer :=
  w.addFound name (trigramsOf? w.config content) host

/-- Takes a file with content that comes as a stream.  If the stream breaks off, the file is passed
over and gets no id. -/
def addStream (w : Writer) (name : String) (stream : Stream) (host : Host := .usual) :
    Except WriteFault (Option FileId) × Writer :=
  match stream.failure with
  | some _ => (.ok none, w)
  | none => w.addContent name stream.content host

/-- Collects neighbouring pairs of one trigram: that trigram, and the files of the pairs. -/
def groupPairs (pairs : List Pair) : List (Trigram × Posting) :=
  (pairs.splitBy fun p q => p.unpack.1 = q.unpack.1).filterMap fun group =>
    group.head?.map fun pair => (pair.unpack.1, group.map fun p => p.unpack.2)

/-- All pairs of the writer, ascending: its runs, read from their files, merged with its buffer. -/
def merged (w : Writer) : List Pair := Run.merge (w.runs.toList.map SpilledRun.run) w.buffer.toList

/-- What the index says. -/
def contents (w : Writer) : Contents :=
  { roots := w.roots.toList
    names := w.names.toList
    postings := groupPairs w.merged
    maxLineLength := w.config.maxLineLength }

/-- The directory that a file lies in. -/
def directoryOf (path : Path) : Path :=
  match path.parent? with
  | some directory => if directory.isEmpty then Path.here else directory
  | none => Path.here

/-- Writes bytes to a temporary file in a directory and then gives it the name of the index, as far as the
host lets it; `breaks` says how many bytes of the temporary file are written before writing breaks off, and
why.  The temporary file does not outlive this, whatever happens. -/
def replaceAgainst (host : Host) (breaks : FileSystem → Path → Option (Nat × WriteFault)) (fs : FileSystem)
    (directory path : Path) (bytes : Bytes) : Except WriteFault Unit × FileSystem :=
  match host.temporaries.create fs directory with
  | .error e => (.error (.temporary directory e), fs)
  | .ok (temporary, made) =>
    let broken := breaks made temporary
    match made.write temporary (broken.elim bytes fun (count, _) => bytes.take count) with
    | .error e => (.error (.content e), host.temporaries.discard made temporary)
    | .ok written =>
      match broken with
      | some (_, fault) => (.error fault, host.temporaries.discard written temporary)
      | none =>
        match host.temporaries.persist written temporary path with
        | (.error e, left) => (.error (.index path e), host.temporaries.discard left temporary)
        | (.ok (), renamed) => (.ok (), renamed)

/-- What breaks off the writing of an index: a run that cannot be read, if there are runs, or else the
system. -/
def breaksOff (w : Writer) (host : Host) (bytes : Bytes) (fs : FileSystem) (temporary : Path) :
    Option (Nat × WriteFault) :=
  match if w.runs.isEmpty then none else host.readRuns with
  | some (count, e) => some (count, .run e)
  | none => (host.writeFile fs temporary bytes).map fun (count, e) => (count, .content e)

/-- Writes the index to a path, as far as the host lets it. -/
def flushAgainst (w : Writer) (host : Host) (path : Path) (fs : FileSystem) :
    Except WriteFault Summary × FileSystem :=
  let directory := directoryOf path
  match fs.makeDirectoriesAgainst host.toObstacles directory with
  | (.error e, fs) => (.error (.directory directory e), fs)
  | (.ok (), fs) =>
    let contents := w.contents
    match replaceAgainst host (w.breaksOff host contents.encode) fs directory path contents.encode with
    | (.error fault, fs) => (.error fault, fs)
    | (.ok (), fs) => (.ok contents.summary, fs)

/-- Writes the index to a path. -/
def flush (w : Writer) (path : Path) (fs : FileSystem) : Except WriteFault Summary × FileSystem :=
  w.flushAgainst .usual path fs

end Writer

end TrigramGrep.Index
