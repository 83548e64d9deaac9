import TrigramGrep.FileSystem

/-!
# Temporary files

A file that is to be replaced at once is first written under another name.  How such names are chosen, how a
file gets its final name and how it is taken away when it is not wanted is not decided here: whoever writes a
file is given a `TemporaryFiles`.  The program's own one numbers the names (`TemporaryFiles.numbered`).
-/

namespace TrigramGrep

namespace FileSystem

/-- The name of a temporary file. -/
def temporaryName (n : Nat) : Bytes := Bytes.ofString (".tmp" ++ toString n)

/-- The path of a temporary file in a directory: the first that is not in use. -/
def temporaryPath (fs : FileSystem) (directory : Path) : Path :=
  let taken := (fs.node directory).toOption.elim [] FileTree.entries
  let free := (List.range (taken.length + 1)).find? fun n =>
    (taken.lookup (temporaryName n)).isNone
  directory.join (temporaryName (free.getD 0))

end FileSystem

/-- How temporary files are had and given up. -/
structure TemporaryFiles where
  /-- Makes an empty file in a directory and tells its path. -/
  create : FileSystem → (directory : Path) → Except SystemError (Path × FileSystem)
  /-- Gives a temporary file another path, at once. -/
  persist : FileSystem → (temporary target : Path) → Except SystemError Unit × FileSystem
  /-- Takes a temporary file away. -/
  discard : FileSystem → (temporary : Path) → FileSystem

/-- Temporary files with numbers in their names. -/
def TemporaryFiles.numbered : TemporaryFiles where
  create fs directory :=
    let path := fs.temporaryPath directory
    match fs.write path [] with
    | .error e => .error e
    | .ok made => .ok (path, made)
  persist fs temporary target :=
    match fs.rename temporary target with
    | .error e => (.error e, fs)
    | .ok renamed => (.ok (), renamed)
  discard fs temporary := fs.remove temporary

end TrigramGrep
