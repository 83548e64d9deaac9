import TrigramGrep.Path

/-!
# Trees of files

A tree is a file with its content, a symbolic link with the path that it leads to, a directory of
named trees, or something special: a pipe, a socket or a device.  Within a tree a node is found by the
list of names that leads to it; links are not followed here.
-/

namespace TrigramGrep

/-- What stands under a name in a file system. -/
inductive FileTree where
  | file (content : Bytes)
  | link (target : Path)
  | directory (entries : List (Bytes × FileTree))
  /-- A pipe, a socket or a device, with what reading it gives if it can be opened. -/
  | special (reading : Option Bytes)
  deriving Inhabited, Repr

/-- The kinds of nodes. -/
inductive NodeKind where
  | file
  | link
  | directory
  | special
  deriving DecidableEq, Repr

namespace FileTree

/-- The directory without entries. -/
def empty : FileTree := .directory []

/-- The entries of a directory; other nodes have none. -/
def entries : FileTree → List (Bytes × FileTree)
  | .directory entries => entries
  | _ => []

/-- The entry of a directory under a name. -/
def entry? (tree : FileTree) (name : Bytes) : Option FileTree := tree.entries.lookup name

/-- The kind of a node. -/
def kind : FileTree → NodeKind
  | .file _ => .file
  | .link _ => .link
  | .directory _ => .directory
  | .special _ => .special

/-- Whether a node is a directory. -/
def isDirectory : FileTree → Bool
  | .directory _ => true
  | _ => false

/-- The node that names lead to. -/
def at? : (names : List Bytes) → FileTree → Option FileTree
  | [], tree => some tree
  | name :: names, tree =>
    match tree.entry? name with
    | some child => at? names child
    | none => none

/-- A list of entries with one entry changed: another node under its name, or none. -/
def setEntry (name : Bytes) (node : Option FileTree) :
    List (Bytes × FileTree) → List (Bytes × FileTree)
  | [] => node.toList.map fun node => (name, node)
  | (other, child) :: rest =>
    if other = name then (node.toList.map fun node => (name, node)) ++ rest
    else (other, child) :: setEntry name node rest

/-- The tree with another node, or none, where names lead to; what leads there is a directory. -/
def set : (names : List Bytes) → Option FileTree → FileTree → FileTree
  | [], node, tree => node.getD tree
  | [name], node, tree => .directory (setEntry name node tree.entries)
  | name :: names, node, tree =>
    .directory (setEntry name (some (set names node ((tree.entry? name).getD empty))) tree.entries)

end FileTree

end TrigramGrep
