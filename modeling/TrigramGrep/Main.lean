import TrigramGrep.CommandLine.Run

/-!
# The program

A run is a function of the arguments, the environment and the files (`CommandLine.run`).  This module gives
it the real ones: it takes a snapshot of the files that a run may look at, runs, writes back the two files
that a run may have written, and prints.  Nothing is decided here.

## Limits of a snapshot

Only files whose paths are text are in it.  A file that cannot be read is left out, as if it were not
there.  Pipes, sockets and devices are not read: they give nothing, and what is written to them is gone.
-/

namespace TrigramGrep.Program

/-- The variables of the environment that a run may ask for. -/
def variableNames : List String :=
  ["HOME", "XDG_DATA_HOME", "REGREPINDEX", "RUST_LOG", "TERM", "NO_COLOR", "RAYON_NUM_THREADS",
    "RAYON_RS_NUM_CPUS"]

/-- The tree that stands at a real entry of a directory.  Links in it lead nowhere, for a walk does not
follow them. -/
partial def treeAt (entry : IO.FS.DirEntry) : IO FileTree := do
  let path := entry.path
  match (← path.symlinkMetadata).type with
  | .dir =>
    let mut entries : List (Bytes × FileTree) := []
    for child in ← path.readDir do
      if let some tree ← (try some <$> treeAt child catch _ => pure none) then
        entries := (Bytes.ofString child.fileName, tree) :: entries
    return .directory entries
  | .symlink => return .link []
  | .other => return .special (some [])
  | .file => return .file (← IO.FS.readBinFile path).toList

/-- The tree that a real path leads to, links followed, if there is one. -/
def treeOf? (path : String) : IO (Option FileTree) := do
  try
    let real ← IO.FS.realPath path
    let tree ← treeAt ⟨real.parent.getD real, real.fileName.getD "."⟩
    return some tree
  catch _ => return none

/-- A snapshot with another real path in it. -/
def addPath (files : FileSystem) (path : Path) : IO FileSystem := do
  let files :=
    match path.parent? with
    | some directory => (files.makeDirectories directory).2
    | none => files
  match files.resolve .entry path, ← treeOf? path.display with
  | .ok (.missing directory name), some tree =>
    return files.setAt (directory ++ [name]) (some tree)
  | _, _ => return files

/-- The paths that a run may look at. -/
def pathsOf (e : CommandLine.Environment) (a : CommandLine.Arguments) : List Path :=
  e.settingsFile?.toList ++ a.targets ++ e.indexFile?.toList ++ a.output.toList

/-- Writes a file back if a run has changed it. -/
def writeBack (before after : FileSystem) (path : Path) : IO Unit := do
  match after.read path with
  | .error _ => return
  | .ok content =>
    if (before.read path).toOption ≠ some content then
      if let some directory := path.parent? then
        if !directory.isEmpty then IO.FS.createDirAll directory.display
      IO.FS.writeBinFile path.display ⟨content.toArray⟩

/-- The arguments, the environment and the files of a run, given to it. -/
def perform (arguments : List String) : IO UInt32 := do
  let arguments := arguments.map Bytes.ofString
  let assignments ← variableNames.filterMapM fun name => do
    return (← IO.getEnv name).map fun value => (name, Bytes.ofString value)
  let output ← IO.getStdout
  let e : CommandLine.Environment := { assignments, hasTerminal := ← output.isTty }
  let asked := (CommandLine.Arguments.ofList arguments).toOption
  let paths := asked.elim [] (pathsOf e)
  let wantsInput := asked.any fun a => a.targets.isEmpty
  let input ← if wantsInput then (← IO.getStdin).readBinToEnd else pure .empty
  let current := Bytes.ofString (← IO.currentDir).toString
  let start : FileSystem := { top := .empty, current := [] }
  let start := { (start.makeDirectories current).2 with current := Path.names current }
  let files ← paths.foldlM addPath start
  let answer := CommandLine.run { e with input := input.toList } arguments files
  paths.forM (writeBack files answer.files)
  output.write ⟨answer.output.toArray⟩
  output.flush
  answer.shown.forM fun event => IO.eprintln event.line
  answer.complaint.forM IO.eprintln
  return UInt32.ofNat answer.code

end TrigramGrep.Program

/-- Runs the program with the arguments of the command line. -/
def main (arguments : List String) : IO UInt32 := TrigramGrep.Program.perform arguments
