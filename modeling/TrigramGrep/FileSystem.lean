import TrigramGrep.FileSystem.Tree

/-!
# A file system as a value

All files, and the directory that relative paths start from.  An operation that can change files gives
the file system after it; where it fails before it has done anything, it gives the error alone.

## Paths and links

`FileSystem.resolve` follows a path name by name.  A link on the way is always followed; one at the
end only where the operation asks for that.  More than forty links in one path are an error, so that
following them comes to an end.  A slash at the end, which only a directory allows, counts as a piece of
the path without a name.
-/

namespace TrigramGrep

/-- Why an operation on files fails. -/
inductive SystemError where
  | notFound
  | noAddress
  | alreadyExists
  | noDevice
  | notDirectory
  | isDirectory
  | nameTooLong
  | tooManyLinks
  | busy
  | invalidArgument
  /-- A path holds a byte that no path can hold; the system itself is not asked. -/
  | zeroByte
  /-- Any other error of the system, for a reason that the files do not show. -/
  | refused (number : Nat) (words : String)
  deriving DecidableEq, Repr

namespace SystemError

/-- The number of an error, if it comes from the system. -/
def number? : SystemError → Option Nat
  | .notFound => some 2
  | .noAddress => some 6
  | .busy => some 16
  | .alreadyExists => some 17
  | .noDevice => some 19
  | .notDirectory => some 20
  | .isDirectory => some 21
  | .invalidArgument => some 22
  | .nameTooLong => some 36
  | .tooManyLinks => some 40
  | .zeroByte => none
  | .refused number _ => some number

/-- An error in words. -/
def words : SystemError → String
  | .notFound => "No such file or directory"
  | .noAddress => "No such device or address"
  | .alreadyExists => "File exists"
  | .noDevice => "No such device"
  | .notDirectory => "Not a directory"
  | .isDirectory => "Is a directory"
  | .nameTooLong => "File name too long"
  | .tooManyLinks => "Too many levels of symbolic links"
  | .busy => "Device or resource busy"
  | .invalidArgument => "Invalid argument"
  | .zeroByte => "file name contained an unexpected NUL byte"
  | .refused _ words => words

/-- An error by its number alone, if it has one. -/
def code (e : SystemError) : String :=
  match e.number? with
  | some number => "os error " ++ toString number
  | none => e.words

/-- An error in words and by its number. -/
def text (e : SystemError) : String :=
  if e.number?.isSome then e.words ++ " (" ++ e.code ++ ")" else e.words

end SystemError

/-- What reading a node gives. -/
def FileTree.reading : FileTree → Except SystemError Bytes
  | .file content => .ok content
  | .special (some content) => .ok content
  | .special none => .error .noAddress
  | .link _ | .directory _ => .error .isDirectory

/-- All files, and the names that lead to the current directory. -/
structure FileSystem where
  top : FileTree
  current : List Bytes
  deriving Repr

namespace FileSystem

/-- Where a path leads to, by the names from the top. -/
inductive Place where
  /-- A node. -/
  | existing (names : List Bytes)
  /-- An entry that a directory could have and has not. -/
  | missing (directory : List Bytes) (name : Bytes)
  deriving DecidableEq, Repr

/-- What an operation wants of the end of a path. -/
inductive Aim where
  /-- The node; a link is followed. -/
  | node
  /-- The entry of a directory; a link is an entry of its own. -/
  | entry
  /-- A file, which may be missing; a link is followed, and a slash behind the name is not allowed. -/
  | file
  deriving DecidableEq, Repr

/-- The longest name that an entry can have. -/
def maxNameLength : Nat := 255

/-- The length of the longest path. -/
def maxPathLength : Nat := 4095

/-- The number of links that may be followed on the way to one node. -/
def maxLinks : Nat := 40

/-- Follows pieces of a path from a node on. -/
def follow (top : FileTree) (aim : Aim) (links : Nat) (names pieces : List Bytes) :
    Except SystemError Place :=
  match pieces with
  | [] => .ok (.existing names)
  | piece :: rest =>
    match top.at? names with
    | some (.directory entries) =>
      if Path.isIdle piece then follow top aim links names rest
      else if piece = Path.above then follow top aim links names.dropLast rest
      else if aim = .file && !rest.isEmpty && rest.all List.isEmpty then .error .isDirectory
      else if maxNameLength < piece.length then .error .nameTooLong
      else
        match entries.lookup piece with
        | none =>
          if rest.all List.isEmpty then .ok (.missing names piece) else .error .notFound
        | some (.link target) =>
          if aim = .entry && rest.all List.isEmpty then .ok (.existing (names ++ [piece]))
          else
            match links with
            | 0 => .error .tooManyLinks
            | links + 1 =>
              follow top aim links (if target.isAbsolute then [] else names)
                (target.pieces ++ rest)
        | some _ => follow top aim links (names ++ [piece]) rest
    | some _ => .error .notDirectory
    | none => .error .notFound
termination_by (links, pieces.length)

/-- Where a path leads to. -/
def resolve (fs : FileSystem) (aim : Aim) (path : Path) : Except SystemError Place :=
  if path.contains 0 then .error .zeroByte
  else if path.isEmpty then .error .notFound
  else if maxPathLength < path.length then .error .nameTooLong
  else follow fs.top aim maxLinks (if path.isAbsolute then [] else fs.current) path.pieces

/-- The path of the current directory. -/
def currentPath (fs : FileSystem) : Path := fs.current.foldl Path.join [Path.slash]

/-- The file system with another node, or none, at a place. -/
def setAt (fs : FileSystem) (names : List Bytes) (node : Option FileTree) : FileSystem :=
  { fs with top := fs.top.set names node }

/-! ## Looking -/

/-- The node that a path leads to, links followed. -/
def node (fs : FileSystem) (path : Path) : Except SystemError FileTree :=
  match fs.resolve .node path with
  | .error e => .error e
  | .ok (.missing ..) => .error .notFound
  | .ok (.existing names) =>
    match fs.top.at? names with
    | some tree => .ok tree
    | none => .error .notFound

/-- Whether a path leads to a node. -/
def isPresent (fs : FileSystem) (path : Path) : Bool := (fs.node path).isOk

/-- Whether a path leads to a directory. -/
def isDirectory (fs : FileSystem) (path : Path) : Bool :=
  match fs.node path with
  | .ok tree => tree.isDirectory
  | .error _ => false

/-- What reading the node gives that a path leads to. -/
def read (fs : FileSystem) (path : Path) : Except SystemError Bytes :=
  match fs.node path with
  | .ok tree => tree.reading
  | .error e => .error e

/-- The size that is told of a directory. -/
def directorySize : Nat := 4096

/-- The size that is told of what a path leads to; for pipes, sockets and devices it is zero. -/
def size (fs : FileSystem) (path : Path) : Except SystemError Nat :=
  match fs.node path with
  | .ok (.file content) => .ok content.length
  | .ok (.special _) => .ok 0
  | .ok _ => .ok directorySize
  | .error e => .error e

/-! ## Changing -/

/-- Makes a directory in one that exists. -/
def makeDirectory (fs : FileSystem) (path : Path) : Except SystemError FileSystem :=
  match fs.resolve .entry path with
  | .error e => .error e
  | .ok (.existing _) => .error .alreadyExists
  | .ok (.missing directory name) => .ok (fs.setAt (directory ++ [name]) (some .empty))

/-- What the system refuses to do for reasons that the files do not show, such as a full disk or missing
rights.  Each refusal may depend on the files as they are by then. -/
structure Obstacles where
  makeDirectory : FileSystem → Path → Option SystemError
  /-- How many bytes of a content are written before writing breaks off, and why it does. -/
  writeFile : FileSystem → Path → Bytes → Option (Nat × SystemError)

/-- The system refuses nothing that the files allow. -/
def Obstacles.none : Obstacles where
  makeDirectory _ _ := .none
  writeFile _ _ _ := .none

/-- Makes a directory in one that exists, unless the system refuses. -/
def makeDirectoryAgainst (fs : FileSystem) (obstacles : Obstacles) (path : Path) :
    Except SystemError FileSystem :=
  match obstacles.makeDirectory fs path with
  | some e => .error e
  | none => fs.makeDirectory path

/-- Makes a directory and, where it has to, those above it; `fuel` bounds how many.  Directories made
before a failure stay. -/
def makeDirectoriesIn (obstacles : Obstacles) :
    (fuel : Nat) → FileSystem → Path → Except SystemError Unit × FileSystem
  | 0, fs, _ => (.error .notFound, fs)
  | fuel + 1, fs, path =>
    if path.isEmpty then (.ok (), fs)
    else
      match fs.makeDirectoryAgainst obstacles path with
      | .ok fs => (.ok (), fs)
      | .error .notFound =>
        match path.parent? with
        | none => (.error .notFound, fs)
        | some above =>
          match makeDirectoriesIn obstacles fuel fs above with
          | (.error e, fs) => (.error e, fs)
          | (.ok (), fs) =>
            match fs.makeDirectoryAgainst obstacles path with
            | .ok fs => (.ok (), fs)
            | .error e => if fs.isDirectory path then (.ok (), fs) else (.error e, fs)
      | .error e => if fs.isDirectory path then (.ok (), fs) else (.error e, fs)

/-- Makes sure that a directory is there, with all directories above it, as far as the system lets it. -/
def makeDirectoriesAgainst (fs : FileSystem) (obstacles : Obstacles) (path : Path) :
    Except SystemError Unit × FileSystem :=
  makeDirectoriesIn obstacles (path.length + 1) fs path

/-- Makes sure that a directory is there, with all directories above it. -/
def makeDirectories (fs : FileSystem) (path : Path) : Except SystemError Unit × FileSystem :=
  fs.makeDirectoriesAgainst .none path

/-- Writes a file, whether it is there or not; a link at the end of the path is followed.  What a pipe
or a device takes leaves no trace. -/
def write (fs : FileSystem) (path : Path) (content : Bytes) : Except SystemError FileSystem :=
  match fs.resolve .file path with
  | .error e => .error e
  | .ok (.missing directory name) => .ok (fs.setAt (directory ++ [name]) (some (.file content)))
  | .ok (.existing names) =>
    match fs.top.at? names with
    | some (.directory _) => .error .isDirectory
    | some (.special none) => .error .noAddress
    | some (.special (some _)) => .ok fs
    | _ => .ok (fs.setAt names (some (.file content)))

/-- Makes a link to a path where there is nothing yet. -/
def makeLink (fs : FileSystem) (path target : Path) : Except SystemError FileSystem :=
  match fs.resolve .entry path with
  | .error e => .error e
  | .ok (.existing _) => .error .alreadyExists
  | .ok (.missing directory name) => .ok (fs.setAt (directory ++ [name]) (some (.link target)))

/-- Whether a path ends in a name, so that an entry can be put there. -/
def endsInName (path : Path) : Bool :=
  match (path.pieces.filter (! ·.isEmpty)).getLast? with
  | some piece => piece ≠ Path.here && piece ≠ Path.above
  | none => false

/-- Gives the file of one path to another, at once; what was there before is gone.  A directory cannot
be replaced. -/
def rename (fs : FileSystem) (source target : Path) : Except SystemError FileSystem :=
  match fs.resolve .entry source, fs.resolve .entry target with
  | .error .zeroByte, _ | _, .error .zeroByte => .error .invalidArgument
  | .error e, _ | _, .error e => .error e
  | .ok (.missing ..), _ => .error .notFound
  | .ok (.existing names), .ok place =>
    let moved := fs.top.at? names
    if !endsInName target then .error .busy
    else if target.endsInSlash then .error .notDirectory
    else
      match place with
      | .missing directory name => .ok ((fs.setAt names none).setAt (directory ++ [name]) moved)
      | .existing others =>
        match fs.top.at? others with
        | some (.directory _) => .error .isDirectory
        | _ => if names = others then .ok fs else .ok ((fs.setAt names none).setAt others moved)

/-- Removes the file of a path; nothing happens if there is none. -/
def remove (fs : FileSystem) (path : Path) : FileSystem :=
  match fs.resolve .entry path with
  | .ok (.existing names) => fs.setAt names none
  | _ => fs

end FileSystem

end TrigramGrep
