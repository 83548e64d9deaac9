import TrigramGrep.Text.Utf8

/-!
# Paths

A path is a byte string of names with slashes between them; it is absolute when it begins with a slash.
Empty names and the name `.` mean the directory they stand in, the name `..` the one above it.  The
operations of this module only look at the text of a path.
-/

namespace TrigramGrep

/-- The place of a file as it is written. -/
abbrev Path := Bytes

namespace Path

/-- The byte between the names of a path. -/
def slash : UInt8 := 47

/-- The name of the directory itself. -/
def here : Bytes := [46]

/-- The name of the directory above. -/
def above : Bytes := [46, 46]

/-- A path from its text. -/
def ofString (text : String) : Path := Bytes.ofString text

/-- A path for people to read. -/
def display (path : Path) : String := Text.Utf8.lossy path

/-- Whether a path begins at the top of all directories. -/
def isAbsolute (path : Path) : Bool := path.head? == some slash

/-- Whether a path ends in a slash, which only a directory allows. -/
def endsInSlash (path : Path) : Bool := path.getLast? == some slash

/-- The pieces of a path between its slashes, empty ones included; `name` is what was read of the first,
the last byte first. -/
def piecesFrom (name : Bytes) : Path → List Bytes
  | [] => [name.reverse]
  | byte :: rest =>
    if byte = slash then name.reverse :: piecesFrom [] rest else piecesFrom (byte :: name) rest

/-- The pieces of a path between its slashes. -/
def pieces (path : Path) : List Bytes := piecesFrom [] path

/-- Whether a piece leads nowhere. -/
def isIdle (piece : Bytes) : Bool := piece.isEmpty || piece == here

/-- The names of a path that lead somewhere. -/
def names (path : Path) : List Bytes := (pieces path).filter fun piece => !isIdle piece

/-- The path of an entry of a directory; an absolute path is taken as it is. -/
def join (directory : Path) (entry : Path) : Path :=
  if entry.isAbsolute || directory.isEmpty then entry
  else if directory.endsInSlash then directory ++ entry
  else directory ++ slash :: entry

/-- The pieces of a path with those at its end left out that lead nowhere; the first piece stays. -/
def trimEnd : (pieces : List Bytes) → List Bytes
  | [] => []
  | first :: rest => first :: (rest.reverse.dropWhile isIdle).reverse

/-- The path without its last name.  The top directory has none, nor has the empty path. -/
def parent? (path : Path) : Option Path :=
  match trimEnd (pieces path) with
  | [] | [[]] => none
  | kept =>
    let kept := trimEnd kept.dropLast
    some (if kept = [[]] then [slash] else List.intercalate [slash] kept)

/-- A path seen from the top: a relative one is taken to start at `current`.  Pieces that lead nowhere
are left out, a slash at the end and two at the beginning stay.  The empty path is no place. -/
def absolute? (current : Path) (path : Path) : Option Path :=
  if path.isEmpty then none
  else
    let start : Path :=
      if path.isAbsolute then
        if path.take 2 = [slash, slash] ∧ path.take 3 ≠ [slash, slash, slash] then [slash, slash]
        else [slash]
      else current
    let whole := path.names.foldl join start
    some (if path.endsInSlash && !whole.endsInSlash then whole ++ [slash] else whole)

/-- The order of names: the directory above first, others by their bytes. -/
def nameLe (a b : Bytes) : Bool :=
  if a = above then true else if b = above then false else Bytes.le a b

/-- The order of lists of names, one that the other continues first. -/
def namesLe : (a b : List Bytes) → Bool
  | [], _ => true
  | _ :: _, [] => false
  | a :: as, b :: bs => if a = b then namesLe as bs else nameLe a b

/-- The order of absolute paths: name by name. -/
def le (a b : Path) : Bool := namesLe a.names b.names

end Path

end TrigramGrep
