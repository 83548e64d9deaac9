import TrigramGrep.CommandLine.Help
import TrigramGrep.Grep.Files
import TrigramGrep.Index.Build
import TrigramGrep.Index.Execute
import TrigramGrep.Log.Filter
import TrigramGrep.Pattern
import TrigramGrep.Query.OfRegex
import TrigramGrep.Settings

/-!
# A run of the program

A run reads the settings, makes a query of the pattern, builds the index of the targets anew, and searches
the files that the query leaves.  It is a function of the arguments and of all that it may look at: the
variables of its environment, standard input and the files.  What it prints and the files afterwards are
its answer.

## Exit codes

Zero says that a line matches, one that none does.  Two says that the run failed, and why is the last
thing on standard error.
-/

namespace TrigramGrep.CommandLine

/-- What a run may look at besides its arguments and the files. -/
structure Environment where
  /-- The variables that are set. -/
  assignments : List (String × Bytes) := []
  /-- The home directory of the user's account, which counts where no variable names one. -/
  accountHome : Option Path := none
  input : Bytes := []
  /-- Whether standard output goes to a terminal. -/
  hasTerminal : Bool := false
  /-- The number of processors, which counts where no variable says how many workers scan files. -/
  processors : Nat := 1
  deriving Repr

/-- What has come of a run. -/
structure Answer where
  code : Nat
  /-- What is on standard output. -/
  output : Bytes := []
  /-- The events that are shown on standard error. -/
  shown : List Event := []
  /-- What is on standard error behind them. -/
  complaint : Option String := none
  /-- The files afterwards. -/
  files : FileSystem
  deriving Repr

namespace Environment

/-- The value of a variable, if it is set. -/
def get? (e : Environment) (name : String) : Option Bytes := e.assignments.lookup name

/-- The value of a variable, if it is set and not empty. -/
def value? (e : Environment) (name : String) : Option Bytes :=
  (e.get? name).filter fun value => !value.isEmpty

/-- The largest number of workers. -/
def maxWorkers : Nat := 65535

/-- The number of files of a batch for each worker. -/
def filesPerWorker : Nat := 4

/-- The number that a variable is set to, if it is set to one. -/
def number? (e : Environment) (name : String) : Option Nat :=
  (e.get? name).bind fun value =>
    let text := (Text.Utf8.lossy value).toList
    (Log.number? (if text.head? = some '+' then text.tail else text)).filter (· < UInt64.size)

/-- The number of workers that scan files.  A number of zero stands for that of the processors. -/
def workers (e : Environment) : Nat :=
  let asked := (e.number? "RAYON_NUM_THREADS").or (e.number? "RAYON_RS_NUM_CPUS")
  match asked with
  | some (n + 1) => min (n + 1) maxWorkers
  | _ => e.processors

/-- The number of files that are scanned at a time. -/
def batchSize (e : Environment) : Nat := e.workers * filesPerWorker

/-- The home directory. -/
def home? (e : Environment) : Option Path := (e.value? "HOME").or e.accountHome

/-- The directory of the data of programs. -/
def dataDirectory? (e : Environment) : Option Path :=
  match (e.get? "XDG_DATA_HOME").filter Path.isAbsolute with
  | some path => some path
  | none => e.home?.map fun home => home.join (Path.ofString ".local/share")

/-- The file of the settings. -/
def settingsFile? (e : Environment) : Option Path :=
  e.dataDirectory?.map fun directory => directory.join (Path.ofString "regrep/config.json")

/-- The file of the index. -/
def indexFile? (e : Environment) : Option Path :=
  (e.value? "REGREPINDEX").or (e.home?.map fun home => home.join (Path.ofString ".regrepindex"))

/-- Whether a terminal takes colours. -/
def allowsColor (e : Environment) : Bool :=
  (e.get? "TERM").any (· ≠ Bytes.ofString "dumb") && (e.get? "NO_COLOR").isNone

/-- Whether output is coloured. -/
def hasColor (e : Environment) : ColorChoice → Bool
  | .never => false
  | .auto => e.hasTerminal && e.allowsColor
  | .always => true

end Environment

/-- Why a run fails. -/
inductive Failure where
  | settings (fault : Settings.Fault)
  | pattern (refusal : Pattern.Refusal)
  | noHome
  | build (fault : Index.WriteFault)
  | unopened (fault : Index.OpenFault)
  | unread (fault : Index.ReadFault)
  | output (path : Path) (error : SystemError)
  deriving Repr

/-- A failure in words. -/
def Failure.message : Failure → String
  | .settings fault => fault.message SystemError.text
  | .pattern refusal => refusal.message
  | .noHome => "Could not determine home directory; set REGREPINDEX"
  | .build fault => fault.message SystemError.text
  | .unopened fault => fault.message SystemError.text
  | .unread fault => fault.message
  | .output path error => "Failed to create " ++ path.display ++ ": " ++ error.text

/-- What a run has done so far. -/
structure Progress where
  files : FileSystem
  events : List Event := []

/-- A step of a run: it may fail, and what was done before stays done. -/
abbrev Step (α : Type) := ExceptT Failure (StateM Progress) α

namespace Step

/-- Reports events. -/
def report (events : List Event) : Step Unit :=
  modify fun p => { p with events := p.events ++ events }

/-- The value of a computation that may fail. -/
def ofExcept (failure : ε → Failure) : Except ε α → Step α
  | .ok a => pure a
  | .error e => throw (failure e)

/-- The outcome of a build. -/
def ofBuild (outcome : Index.Outcome) : Step Unit := do
  report outcome.events
  modify fun p => { p with files := outcome.files }
  let _ ← ofExcept .build outcome.result

/-- Writes a file for the output. -/
def writeOutput (path : Path) (content : Bytes) : Step Unit := do
  let files ← ofExcept (.output path) ((← get).files.write path content)
  modify fun p => { p with files := files }

end Step

/-- The name of standard input among files. -/
def inputName : String := "/dev/console/stdin"

/-- How lines are printed. -/
def Arguments.options (a : Arguments) : Grep.Options :=
  { count := a.has .count
    namesOnly := a.has .namesOnly
    lineNumbers := a.has .lineNumbers
    noFileName := a.has .noFileName }

/-- Builds the index that is searched. -/
def buildIndex (e : Environment) (a : Arguments) (config : Index.Config) (index : Path) :
    Step Unit := do
  let files := (← get).files
  if a.targets.isEmpty then
    Step.ofBuild (Index.buildFromStream config index inputName { content := e.input } files)
  else
    Step.report (Index.targetEvents files a.targets)
    Step.ofBuild
      (Index.build e.batchSize config index (Index.resolveRoots files a.targets) files)

/-- Searches the files that a query leaves; gives what is printed on standard output and whether a line
matches. -/
def searchIndex (e : Environment) (a : Arguments) (pattern : Pattern) (query : Query) (index : Path) :
    Step (Bytes × Bool) := do
  let reader ← Step.ofExcept .unopened (Index.Reader.openFile (← get).files index)
  let ids ← Step.ofExcept .unread (reader.execute query)
  Step.report [.candidates ids.length]
  if let some path := a.output then Step.writeOutput path []
  let names ← Step.ofExcept .unread (ids.mapM reader.name)
  let files := (← get).files
  let findings :=
    if a.targets.isEmpty then
      (names.map fun _ =>
        Grep.searchContent pattern.matcher a.options reader.maxLineLength inputName e.input).foldl
          Grep.Findings.append {}
    else
      match a.output with
      | some path =>
        Grep.searchFilesInto pattern.matcher a.options reader.maxLineLength path files names
      | none => Grep.searchFiles pattern.matcher a.options reader.maxLineLength files names
  Step.report findings.events
  match a.output with
  | some path =>
    Step.writeOutput path (Output.render false findings.strokes)
    return ([], findings.matched)
  | none => return (Output.render (e.hasColor a.color) findings.strokes, findings.matched)

/-- Does what is asked for; gives what is printed on standard output and whether a line matches. -/
def perform (e : Environment) (a : Arguments) : Step (Bytes × Bool) := do
  let settings ← match e.settingsFile? with
    | some path => Step.ofExcept .settings (Settings.load (← get).files path)
    | none => pure {}
  let pattern ← Step.ofExcept .pattern (Pattern.ofText (a.has .ignoreCase) a.pattern)
  let query := Query.ofRegex settings.compiler pattern.regex
  Step.report [.query query, .required query.required]
  let index ← match e.indexFile? with
    | some path => pure path
    | none => throw .noHome
  Step.report [.buildStarted index]
  buildIndex e a settings.index index
  Step.report [.buildDone]
  searchIndex e a pattern query index

/-- Runs the program. -/
def run (e : Environment) (arguments : List Bytes) (files : FileSystem) : Answer :=
  match Arguments.ofList arguments with
  | .error .help => { code := 0, output := Bytes.ofString helpText, files }
  | .error (.fault fault) => { code := 2, complaint := some ("error: " ++ fault.message), files }
  | .ok a =>
    let rules := Log.rulesOf (e.get? "RUST_LOG") (a.has .verbose)
    let (result, progress) := (perform e a).run.run { files }
    let shown := progress.events.filter (Log.shows rules)
    match result with
    | .ok (output, matched) =>
      { code := if matched then 0 else 1, output, shown, files := progress.files }
    | .error failure =>
      { code := 2, shown, complaint := some ("regrep: " ++ failure.message), files := progress.files }

end TrigramGrep.CommandLine
