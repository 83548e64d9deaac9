import TrigramGrep.FileSystem

/-!
# Walking directories

A walk comes to a root and to what is under it.  The entries of a directory come in the order of their names,
and what a directory holds comes where the directory stands; links are entries like others and are not
followed, except for the root itself.  A walk asks of every entry whether to enter it, and an entry that it
does not enter is passed over with all that is under it.

How a walk goes is not decided here: whoever needs one is given a `Walker`.  The program's own one is
`Walker.sorted`.
-/

namespace TrigramGrep

/-- What a walk comes to. -/
structure Visit where
  path : Path
  /-- The number of names on the way from the root. -/
  depth : Nat
  /-- The kind of the node; standard input has none. -/
  kind : Option NodeKind
  deriving DecidableEq, Repr

/-- The path of a visit, if it is one to a regular file. -/
def Visit.file? (visit : Visit) : Option Path := if visit.kind = some .file then some visit.path else none

/-- Walks through what is at and under a root, entering what it is to enter by the number of names on the way
from the root and the last of them.  What cannot be looked at is an error, told with its path. -/
abbrev Walker :=
  (enters : Nat → Bytes → Bool) → FileSystem → (root : Path) → List (Except (Path × SystemError) Visit)

namespace FileTree

mutual

/-- What a walk comes to at and under a node that stands at `path`. -/
def visits (enters : Nat → Bytes → Bool) (path : Path) (depth : Nat) : FileTree → List Visit
  | .file _ => [⟨path, depth, some .file⟩]
  | .link _ => [⟨path, depth, some .link⟩]
  | .special _ => [⟨path, depth, some .special⟩]
  | .directory entries =>
    ⟨path, depth, some .directory⟩ ::
      ((visitsOfEntries enters path (depth + 1) entries).mergeSort fun a b =>
        Bytes.le a.1 b.1).flatMap Prod.snd

/-- The names of the entries that are entered, each with what is at and under it. -/
def visitsOfEntries (enters : Nat → Bytes → Bool) (path : Path) (depth : Nat) :
    List (Bytes × FileTree) → List (Bytes × List Visit)
  | [] => []
  | (name, node) :: rest =>
    if enters depth name then
      (name, visits enters (path.join name) depth node) :: visitsOfEntries enters path depth rest
    else visitsOfEntries enters path depth rest

end

end FileTree

namespace FileSystem

/-- Whether a path stands for standard input instead of a file: it is a dash, with slashes and pieces behind it that
lead nowhere or with none. -/
def isStandardInput (path : Path) : Bool := Path.trimEnd path.pieces = [[45]]

end FileSystem

/-- The walker of the program. -/
def Walker.sorted : Walker := fun enters fs root =>
  if FileSystem.isStandardInput root then [.ok ⟨root, 0, none⟩]
  else
    match fs.node root with
    | .error e => [.error (root, e)]
    | .ok tree => (tree.visits enters root 0).map .ok

end TrigramGrep
