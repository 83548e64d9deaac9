import TrigramGrep.Grep
import TrigramGrep.Log
import TrigramGrep.Output.Buffered

/-!
# Searching files

The files that an index leaves are searched one after the other.  A file that cannot be read any more is
reported and passed over.

What is printed may go to a file of its own (`searchFilesInto`).  If that is one of the files that are
searched, then what is found in it is what has got there so far.
-/

namespace TrigramGrep.Grep

/-- What a search of several files gives. -/
structure Findings where
  /-- What is reported on the way. -/
  events : List Event := []
  /-- What is printed. -/
  strokes : List Stroke := []
  /-- Whether a line matches. -/
  matched : Bool := false
  deriving Repr

namespace Findings

/-- The findings of one search behind those of another. -/
def append (a b : Findings) : Findings :=
  { events := a.events ++ b.events
    strokes := a.strokes ++ b.strokes
    matched := a.matched || b.matched }

end Findings

/-- Searches a content. -/
def searchContent (find : Matcher) (options : Options) (maxLineLength : Nat) (name : String)
    (content : Bytes) : Findings :=
  let (strokes, matched) := search find options maxLineLength name content
  { strokes, matched }

/-- Searches the file of a name. -/
def searchFile (find : Matcher) (options : Options) (maxLineLength : Nat) (fs : FileSystem)
    (name : String) : Findings :=
  let path := Path.ofString name
  match fs.read path with
  | .error e => { events := [.unsearchable path e] }
  | .ok content => searchContent find options maxLineLength name content

/-- Searches the files of several names. -/
def searchFiles (find : Matcher) (options : Options) (maxLineLength : Nat) (fs : FileSystem)
    (names : List String) : Findings :=
  (names.map (searchFile find options maxLineLength fs)).foldl Findings.append {}

/-- A search that prints to a file. -/
structure Search where
  /-- The files as they are by now. -/
  files : FileSystem
  output : Output.Buffered := {}
  findings : Findings := {}

/-- The search after one more file, with what has gone to the file of a path by then. -/
def Search.step (find : Matcher) (options : Options) (maxLineLength : Nat) (path : Path) (s : Search)
    (name : String) : Search :=
  let found := searchFile find options maxLineLength s.files name
  let output := s.output.putAll found.strokes
  let files :=
    if output.gone.length = s.output.gone.length then s.files
    else (s.files.write path output.content).toOption.getD s.files
  { files, output, findings := s.findings.append found }

/-- Searches the files of several names and prints to the file of a path, which is empty before. -/
def searchFilesInto (find : Matcher) (options : Options) (maxLineLength : Nat) (path : Path)
    (fs : FileSystem) (names : List String) : Findings :=
  (names.foldl (Search.step find options maxLineLength path) { files := fs }).findings

end TrigramGrep.Grep
