import TrigramGrep.FileSystem
import TrigramGrep.Query.Text

/-!
# What is reported on the way

While an index is built and a query is answered, events are reported, each with a level and the part of
the program that it comes from.  Which of them are shown is decided at the end (`Log.Filter`), so an
event is a value of its own and not yet a line of text.
-/

namespace TrigramGrep

/-- How much an event matters, the most important first. -/
inductive Level where
  | error
  | warn
  | info
  | debug
  | trace
  deriving DecidableEq, Repr

namespace Level

/-- The place of a level in their order. -/
def rank : Level → Nat
  | .error => 1
  | .warn => 2
  | .info => 3
  | .debug => 4
  | .trace => 5

/-- A level as it is shown. -/
def text : Level → String
  | .error => "ERROR"
  | .warn => "WARN"
  | .info => "INFO"
  | .debug => "DEBUG"
  | .trace => "TRACE"

end Level

/-- Something that happened. -/
inductive Event where
  /-- The condition on files that was derived from the pattern. -/
  | query (query : Query)
  /-- The trigrams that every file with a match holds. -/
  | required (query : Query)
  | buildStarted (index : Path)
  | buildDone
  /-- A target of the search and the root that it is. -/
  | including (target root : Path)
  /-- The empty text was given as a target. -/
  | emptyTarget
  | walking (root : Path)
  /-- A walk takes relative paths to start at a directory. -/
  | startingAt (current : Path)
  | unwalkable (root : Path) (error : SystemError)
  | scanning (files : Nat)
  /-- A file cannot be read for the index. -/
  | unreadable (path : Path) (error : SystemError)
  /-- Content that was handed over broke off with an error. -/
  | brokenOff (name : String) (error : String)
  | tooLarge (path : Path) (size : Nat)
  | notText (name : String)
  /-- Content that was handed over is no text. -/
  | contentNotText (name : String)
  /-- A run was set aside; runs are counted from one. -/
  | spilled (run pairs : Nat)
  /-- The largest number of scanned files that waited at once. -/
  | heldAtMost (files : Nat)
  | wrote (index : Path) (files trigrams bytes : Nat)
  | candidates (files : Nat)
  /-- A file cannot be read for the search. -/
  | unsearchable (path : Path) (error : SystemError)
  deriving Repr

namespace Event

/-- How much an event matters. -/
def level : Event → Level
  | .emptyTarget | .unwalkable .. | .unreadable .. | .brokenOff .. | .tooLarge .. |
    .unsearchable .. => .warn
  | .buildStarted _ | .buildDone | .including .. | .walking _ | .wrote .. => .info
  | .query _ | .required _ | .scanning _ | .notText _ | .contentNotText _ | .spilled .. |
    .heldAtMost _ | .candidates _ => .debug
  | .startingAt _ => .trace

/-- The part of the program that an event comes from, under the name by which filters know it. -/
def origin : Event → String
  | .query _ | .required _ | .buildStarted _ | .buildDone | .candidates _ => "regrep"
  | .including .. | .emptyTarget | .walking _ | .unwalkable .. | .scanning _ | .notText _ |
    .heldAtMost _ => "regrep::index::build"
  | .unreadable .. | .brokenOff .. | .tooLarge .. | .contentNotText _ | .spilled .. |
    .wrote .. => "regrep::index::writer"
  | .unsearchable .. => "regrep::grep"
  | .startingAt _ => "ignore::walk"

/-- The names of the fields that an event has. -/
def fields : Event → List String
  | .startingAt _ => ["message", "log.target", "log.module_path", "log.file", "log.line"]
  | _ => ["message"]

/-- An event in words. -/
def message : Event → String
  | .query q => "query: " ++ q.text
  | .required q => "required trigrams: " ++ q.text
  | .buildStarted index => "starting index build at " ++ index.display
  | .buildDone => "done with index build"
  | .including target root => "including " ++ target.display ++ ": " ++ root.display
  | .emptyTarget => ": cannot make an empty path absolute"
  | .walking root => "index " ++ root.display
  | .startingAt current => "automatically discovered CWD: " ++ current.display
  | .unwalkable root error =>
    root.display ++ ": IO error for operation on " ++ root.display ++ ": " ++ error.text
  | .scanning files => "scanning " ++ toString files ++ " files"
  | .unreadable path error | .unsearchable path error => path.display ++ ": " ++ error.text
  | .brokenOff name error => name ++ ": " ++ error
  | .tooLarge path size =>
    path.display ++ ": too large (" ++ toString size ++ " bytes), skipping"
  | .notText name | .contentNotText name => name ++ ": not text, skipping"
  | .spilled run pairs =>
    "spilled run " ++ toString run ++ " (" ++ toString pairs ++ " pairs)"
  | .heldAtMost files => "at most " ++ toString files ++ " scanned files held before writing"
  | .wrote index files trigrams bytes =>
    "wrote " ++ index.display ++ ": " ++ toString files ++ " files, " ++ toString trigrams ++
      " trigrams, " ++ toString bytes ++ " bytes"
  | .candidates files => "post query identified " ++ toString files ++ " possible files"

/-- A character as it is shown: control characters that a terminal could take for a command are written
out. -/
def showChar (c : Char) : List Char :=
  if c = '\x1b' ∨ c = '\x07' ∨ c = '\x08' ∨ c = '\x0c' ∨ c = '\x7f' then
    '\\' :: 'x' :: Bytes.hexPair (UInt8.ofNat c.toNat)
  else if 0x80 ≤ c.toNat ∧ c.toNat ≤ 0x9F then
    ['\\', 'u', '\x7b'] ++ Nat.toDigits 16 c.toNat ++ ['\x7d']
  else [c]

/-- The line that shows an event. -/
def line (e : Event) : String :=
  e.level.text ++ " " ++ String.ofList (e.message.toList.flatMap showChar)

end Event

end TrigramGrep
