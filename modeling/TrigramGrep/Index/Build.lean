import TrigramGrep.FileSystem.Walk
import TrigramGrep.Index.Writer
import TrigramGrep.Log

/-!
# Building the index of directory trees

The files under the roots are scanned and handed to a writer in the order of the walk.  Scanning goes
by batches: all files of a batch are scanned before the first of them is written, so no more than one
batch waits in memory.  A file that cannot be read, is too large or is no text is passed over and gets
no id.

## Events

What is reported is kept apart from what is built: the files that are found, the writer and the file
system never depend on an event.
-/

namespace TrigramGrep

/-- Whether entries with a name are passed over: hidden entries, editor backups and temporaries. -/
def isSkippedName (name : Bytes) : Bool :=
  let first := name.head?
  first = some 46 || first = some 35 || first = some 126 || name.getLast? = some 126

namespace Index

/-! ## Roots -/

/-- The distinct roots that targets stand for, seen from the top and in the order of their names.  The
empty path is no target. -/
def resolveRoots (fs : FileSystem) (targets : List Path) : List Path :=
  (((targets.filterMap (Path.absolute? fs.currentPath)).mergeSort Path.le).splitBy fun p q =>
    p.names = q.names).filterMap List.head?

/-- What is reported of targets. -/
def targetEvents (fs : FileSystem) (targets : List Path) : List Event :=
  targets.map fun target =>
    match Path.absolute? fs.currentPath target with
    | some root => .including target root
    | none => .emptyTarget

/-- Which entries a walk enters, by the number of names on the way from the root and the last of them: the root,
and every name that is not passed over. -/
def enters (depth : Nat) (name : Bytes) : Bool := depth = 0 || !isSkippedName name

/-- The regular files under several roots, one root after the other.  A root that cannot be looked at
has none. -/
def collectFiles (fs : FileSystem) (roots : List Path) (walk : Walker := .sorted) : List Path :=
  roots.flatMap fun root => (walk enters fs root).filterMap fun visit => visit.toOption.bind Visit.file?

/-- What is reported of a walk through several roots. -/
def walkEvents (fs : FileSystem) (roots : List Path) (walk : Walker := .sorted) : List Event :=
  roots.flatMap fun root =>
    [.walking root, .startingAt fs.currentPath] ++
      (walk enters fs root).filterMap fun
        | .ok _ => none
        | .error (path, e) => some (.unwalkable path e)

/-! ## Files -/

/-- The content of a file, or what is reported when it is passed over unread: the size is looked at first. -/
def contentOf (fs : FileSystem) (maxSize : Nat) (path : Path) : Except Event Bytes :=
  match fs.size path with
  | .error e => .error (.unreadable path e)
  | .ok size =>
    if maxSize < size then .error (.tooLarge path size)
    else
      match fs.read path with
      | .error e => .error (.unreadable path e)
      | .ok content => .ok content

/-- The trigrams of a file, or what is reported when it is passed over. -/
def scan (fs : FileSystem) (config : Config) (path : Path) : Except Event (List Trigram) :=
  match contentOf fs config.maxFileSize path with
  | .error event => .error event
  | .ok content =>
    match trigramsOf? config content with
    | none => .error (.notText path.display)
    | some trigrams => .ok trigrams

/-- A file that was scanned. -/
structure Scanned where
  path : Path
  found : Except Event (List Trigram)

namespace Writer

/-- Takes a file that was scanned. -/
def addScanned (w : Writer) (file : Scanned) (host : Host) : Except WriteFault (Option FileId) × Writer :=
  w.addFound file.path.display file.found.toOption host

/-- Takes a file that a path leads to.  One that cannot be read, is too large or is no text is passed over and
gets no id. -/
def addFile (w : Writer) (fs : FileSystem) (path : Path) (host : Host := .usual) :
    Except WriteFault (Option FileId) × Writer :=
  match contentOf fs w.config.maxFileSize path with
  | .error _ => (.ok none, w)
  | .ok content => w.addContent path.display content host

/-- Takes files that were scanned, one after the other. -/
def addAll (w : Writer) (host : Host) : List Scanned → Except WriteFault Unit × Writer
  | [] => (.ok (), w)
  | file :: files =>
    match w.addScanned file host with
    | (.error fault, w) => (.error fault, w)
    | (.ok _, w) => addAll w host files

/-- What is reported of the runs that one writer has and an earlier one did not have. -/
def spillEvents (earlier later : Writer) : List Event :=
  ((later.runs.toList.zipIdx 1).drop earlier.runs.size).map fun (run, number) =>
    .spilled number run.length

end Writer

/-- The pieces of a list, each of `size` members, or of one if `size` is zero; the last piece may be
shorter. -/
def batchesOf (size : Nat) (files : List Path) : List (List Path) :=
  if _ : files = [] then []
  else files.take (max size 1) :: batchesOf size (files.drop (max size 1))
termination_by files.length
decreasing_by
  have := List.length_pos_iff.mpr ‹_›
  simp only [List.length_drop]
  omega

/-- Scans batches of files and hands them to a writer; also tells what is reported. -/
def addBatches (fs : FileSystem) (host : Host) (w : Writer) :
    List (List Path) → List Event × Except WriteFault Unit × Writer
  | [] => ([], .ok (), w)
  | batch :: rest =>
    let scanned := batch.map fun path => { path, found := scan fs w.config path }
    let skipped := scanned.filterMap fun file =>
      match file.found with
      | .error event => some event
      | .ok _ => none
    match w.addAll host scanned with
    | (.error fault, next) => (skipped ++ w.spillEvents next, .error fault, next)
    | (.ok (), next) =>
      let (events, result) := addBatches fs host next rest
      (skipped ++ w.spillEvents next ++ events, result)

/-! ## Builds -/

/-- What has come of a build. -/
structure Outcome where
  events : List Event
  result : Except WriteFault Summary
  /-- The files afterwards. -/
  files : FileSystem

/-- Writes the index of a writer to a path, after `events`. -/
def finish (events : List Event) (w : Writer) (path : Path) (fs : FileSystem) (host : Host) : Outcome :=
  match w.flushAgainst host path fs with
  | (.error fault, fs) => { events, result := .error fault, files := fs }
  | (.ok summary, fs) =>
    { events := events ++ [.wrote path summary.files summary.trigrams summary.bytes]
      result := .ok summary
      files := fs }

/-- Builds the index of all files under some roots, scanning `batchSize` files at a time. -/
def build (batchSize : Nat) (config : Config) (path : Path) (roots : List Path) (fs : FileSystem)
    (host : Host := .usual) : Outcome :=
  let found := collectFiles fs roots host.walk
  let batches := batchesOf batchSize found
  let w := (Writer.new config).addRoots (roots.map Path.display)
  let (events, result, w) := addBatches fs host w batches
  let events := walkEvents fs roots host.walk ++ .scanning found.length :: events
  match result with
  | .error fault => { events, result := .error fault, files := fs }
  | .ok () =>
    let held := (batches.map List.length).foldl max 0
    finish (events ++ [.heldAtMost held]) w path fs host

/-- Builds the index of a single file, whose content comes as a stream. -/
def buildFromStream (config : Config) (path : Path) (name : String) (stream : Stream)
    (fs : FileSystem) (host : Host := .usual) : Outcome :=
  let w := Writer.new config
  match w.addStream name stream host with
  | (.error fault, next) => { events := w.spillEvents next, result := .error fault, files := fs }
  | (.ok id, next) =>
    let skipped :=
      match stream.failure, id with
      | some error, _ => [.brokenOff name error]
      | none, none => [.contentNotText name]
      | none, some _ => []
    finish (skipped ++ w.spillEvents next) next path fs host

end Index

end TrigramGrep
