import TrigramGrep.Index.Contents
import TrigramGrep.Json.Record
import TrigramGrep.FileSystem
import TrigramGrep.Query.Analysis

/-!
# Settings

The settings of the program are the ones that an index is built with and the limits of the analysis of
patterns.  They are read from a file; each one has a default, which holds where the file or the field is
missing.
-/

namespace TrigramGrep

/-- What can be set. -/
structure Settings where
  index : Index.Config := {}
  compiler : Limits := {}
  deriving DecidableEq, Repr

namespace Settings

/-- How the settings of an index are written. -/
def indexShape : Json.Shape Index.Config :=
  { title := "struct IndexConfig"
    fields :=
      [ ⟨"max_line_len", fun c i =>
          (Json.readNatural "usize" i).map fun (n, i) => ({ c with maxLineLength := n }, i)⟩,
        ⟨"spill_threshold", fun c i =>
          (Json.readNatural "usize" i).map fun (n, i) => ({ c with spillThreshold := n }, i)⟩,
        ⟨"max_file_size", fun c i =>
          (Json.readNatural "u64" i).map fun (n, i) => ({ c with maxFileSize := n }, i)⟩ ] }

/-- How the limits of the analysis are written. -/
def limitsShape : Json.Shape Limits :=
  { title := "struct CompilerLimits"
    fields :=
      [ ⟨"max_exact", fun l i =>
          (Json.readNatural "usize" i).map fun (n, i) => ({ l with maxExact := n }, i)⟩,
        ⟨"max_set", fun l i =>
          (Json.readNatural "usize" i).map fun (n, i) => ({ l with maxSet := n }, i)⟩,
        ⟨"max_class", fun l i =>
          (Json.readNatural "usize" i).map fun (n, i) => ({ l with maxClass := n }, i)⟩,
        ⟨"max_alternates", fun l i =>
          (Json.readNatural "usize" i).map fun (n, i) => ({ l with maxAlternates := n }, i)⟩ ] }

/-- How settings are written. -/
def shape : Json.Shape Settings :=
  { title := "struct AppConfig"
    fields :=
      [ ⟨"index", fun s i =>
          (indexShape.read s.index i).map fun (c, i) => ({ s with index := c }, i)⟩,
        ⟨"compiler", fun s i =>
          (limitsShape.read s.compiler i).map fun (l, i) => ({ s with compiler := l }, i)⟩ ] }

/-- Why a file holds no settings. -/
inductive Fault where
  | unreadable (path : Path) (error : SystemError)
  | notUtf8 (path : Path)
  | malformed (path : Path) (document : Bytes) (fault : Json.Fault)
  deriving DecidableEq, Repr

/-- A fault in words; `wording` says how an error of the system is put. -/
def Fault.message (wording : SystemError → String) : Fault → String
  | .unreadable path error =>
    "Failed to read config file " ++ path.display ++ ": " ++ wording error
  | .notUtf8 path =>
    "Failed to read config file " ++ path.display ++ ": stream did not contain valid UTF-8"
  | .malformed path document fault =>
    "Failed to parse config file " ++ path.display ++ ": " ++ fault.message document

/-- The settings of a file, or the default ones if there is no file. -/
def load (fs : FileSystem) (path : Path) : Except Fault Settings :=
  if fs.isPresent path then
    match fs.read path with
    | .error e => .error (.unreadable path e)
    | .ok document =>
      if !Text.Utf8.isValid document then .error (.notUtf8 path)
      else
        match shape.readDocument {} document with
        | .error fault => .error (.malformed path document fault)
        | .ok settings => .ok settings
  else .ok {}

end Settings

end TrigramGrep
