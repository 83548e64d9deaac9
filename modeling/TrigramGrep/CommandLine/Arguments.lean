import TrigramGrep.Path
import TrigramGrep.Text.Plain

/-!
# Arguments of the command line

The arguments are a pattern, the targets to search, and options, which may stand anywhere.  Behind the
argument `--` all others are taken as they are.

## Order of the faults

Arguments are taken from left to right.  The values of a pattern, of targets and of an option are only
looked at when they are complete: when the next one begins or at the end.  So of several faults it is the
first in that order that counts, except that an option nobody knows counts before values that are still
being collected.
-/

namespace TrigramGrep.CommandLine

/-- When output is coloured. -/
inductive ColorChoice where
  | never
  /-- When the output goes to a terminal. -/
  | auto
  | always
  deriving DecidableEq, Repr

/-- The options that take no value. -/
inductive Switch where
  | count
  | noFileName
  | ignoreCase
  | namesOnly
  | lineNumbers
  | verbose
  | help
  deriving DecidableEq, Repr

/-- What takes values. -/
inductive Slot where
  | pattern
  | targets
  | output
  | color
  deriving DecidableEq, Repr

/-- What is asked of the program. -/
structure Arguments where
  pattern : String
  targets : List Path
  switches : List Switch
  output : Option Path
  color : ColorChoice
  deriving DecidableEq, Repr

/-- Why arguments cannot be taken. -/
inductive UsageFault where
  | unexpected (argument : String)
  | unexpectedValue (value owner : String)
  | missingValue (owner : String)
  | invalidValue (value owner : String)
  | repeated (owner : String)
  | missingArguments
  | notUtf8
  deriving DecidableEq, Repr

/-- A fault in words.  What was given is shown without commands to a terminal. -/
def UsageFault.message : UsageFault → String
  | .unexpected argument => "unexpected argument '" ++ Text.Plain.ofText argument ++ "' found"
  | .unexpectedValue value owner =>
    "unexpected value '" ++ Text.Plain.ofText value ++ "' for '" ++ owner ++
      "' found; no more were expected"
  | .missingValue owner => "a value is required for '" ++ owner ++ "' but none was supplied"
  | .invalidValue value owner =>
    "invalid value '" ++ Text.Plain.ofText value ++ "' for '" ++ owner ++ "'"
  | .repeated owner => "the argument '" ++ owner ++ "' cannot be used multiple times"
  | .missingArguments => "the following required arguments were not provided:"
  | .notUtf8 => "invalid UTF-8 was detected in one or more arguments"

/-- Why no arguments are given on. -/
inductive Stop where
  /-- Help was asked for. -/
  | help
  | fault (fault : UsageFault)
  deriving DecidableEq, Repr

/-! ## Names of options -/

/-- An option. -/
inductive Named where
  | switch (switch : Switch)
  | slot (slot : Slot)
  deriving DecidableEq, Repr

/-- The option of a letter. -/
def shortOption? : Char → Option Named
  | 'c' => some (.switch .count)
  | 'h' => some (.switch .noFileName)
  | 'i' => some (.switch .ignoreCase)
  | 'l' => some (.switch .namesOnly)
  | 'n' => some (.switch .lineNumbers)
  | 'o' => some (.slot .output)
  | _ => none

/-- The option of a word. -/
def longOption? (word : Bytes) : Option Named :=
  if word = Bytes.ofString "color" then some (.slot .color)
  else if word = Bytes.ofString "verbose" then some (.switch .verbose)
  else if word = Bytes.ofString "help" then some (.switch .help)
  else none

/-- A switch as it is shown. -/
def Switch.text : Switch → String
  | .count => "-c"
  | .noFileName => "-h"
  | .ignoreCase => "-i"
  | .namesOnly => "-l"
  | .lineNumbers => "-n"
  | .verbose => "--verbose"
  | .help => "--help"

/-- What takes values, as it is shown. -/
def Slot.text : Slot → String
  | .pattern => "<PATTERN>"
  | .targets => "[TARGETS]..."
  | .output => "-o <FILE>"
  | .color => "--color <COLOR>"

/-! ## Taking arguments -/

/-- What has been taken so far. -/
structure Draft where
  pattern : Option String := none
  targets : List Path := []
  switches : List Switch := []
  output : Option Path := none
  color : Option ColorChoice := none
  /-- What is still taking values, with the values it has. -/
  pending : Option (Slot × List Bytes) := none
  /-- Whether the pattern has been met. -/
  hasPattern : Bool := false
  deriving DecidableEq, Repr

namespace Draft

/-- Takes paths; none of them may be empty. -/
def paths (slot : Slot) (values : List Bytes) : Except Stop (List Path) :=
  if values.any List.isEmpty then .error (.fault (.missingValue slot.text)) else .ok values

/-- The choice that a value names. -/
def colorChoice (value : Bytes) : Except Stop ColorChoice :=
  if value = Bytes.ofString "never" then .ok .never
  else if value = Bytes.ofString "auto" then .ok .auto
  else if value = Bytes.ofString "always" then .ok .always
  else if value.isEmpty then .error (.fault (.missingValue Slot.color.text))
  else .error (.fault (.invalidValue (Text.Utf8.lossy value) Slot.color.text))

/-- Takes all values of something. -/
def accept (d : Draft) (slot : Slot) (values : List Bytes) : Except Stop Draft :=
  match slot, values with
  | slot, [] => .error (.fault (.missingValue slot.text))
  | .pattern, value :: _ =>
    match Text.Utf8.decode value with
    | .ok text => .ok { d with pattern := some text }
    | .error _ => .error (.fault .notUtf8)
  | .targets, values => do return { d with targets := d.targets ++ (← paths .targets values) }
  | .output, value :: _ => do
    if d.output.isSome then throw (.fault (.repeated Slot.output.text))
    let _ ← paths .output [value]
    return { d with output := some value }
  | .color, value :: _ => do
    if d.color.isSome then throw (.fault (.repeated Slot.color.text))
    return { d with color := some (← colorChoice value) }

/-- Ends the collection of values. -/
def settle (d : Draft) : Except Stop Draft :=
  match d.pending with
  | none => .ok d
  | some (slot, values) => accept { d with pending := none } slot values

/-- Takes a switch. -/
def turnOn (d : Draft) (switch : Switch) : Except Stop Draft := do
  let d ← d.settle
  if switch = .help then throw .help
  if d.switches.contains switch then throw (.fault (.repeated switch.text))
  return { d with switches := d.switches ++ [switch] }

/-- Takes an option with the value attached to it, or begins to collect its value. -/
def begin (d : Draft) (slot : Slot) (attached : Option Bytes) : Except Stop Draft := do
  let d ← d.settle
  match attached with
  | some value => d.accept slot [value]
  | none => return { d with pending := some (slot, []) }

/-- Takes an argument that is the pattern or a target. -/
def addPlain (d : Draft) (value : Bytes) : Except Stop Draft := do
  if d.hasPattern then
    match d.pending with
    | some (.targets, values) => return { d with pending := some (.targets, values ++ [value]) }
    | _ =>
      let d ← d.settle
      return { d with pending := some (.targets, [value]) }
  else
    let d ← d.settle
    return { d with pending := some (.pattern, [value]), hasPattern := true }

/-- The byte that begins an option. -/
def hyphen : UInt8 := 45

/-- The byte between an option and its value. -/
def equality : UInt8 := 61

/-- Takes an option that is a word; both hyphens are left out. -/
def addLong (d : Draft) (text : Bytes) : Except Stop Draft :=
  let word := text.takeWhile (· ≠ equality)
  let attached := if word.length < text.length then some (text.drop (word.length + 1)) else none
  match longOption? word with
  | none => .error (.fault (.unexpected ("--" ++ Text.Utf8.lossy word)))
  | some (.slot slot) => d.begin slot attached
  | some (.switch switch) =>
    match attached with
    | some value => .error (.fault (.unexpectedValue (Text.Utf8.lossy value) switch.text))
    | none => d.turnOn switch

/-- Takes options that are letters, all behind one hyphen, which is left out.  Behind the letter of an
option with a value all that is left is the value. -/
def addShort (d : Draft) : (text : Bytes) → Except Stop Draft
  | [] => .ok d
  | byte :: rest =>
    match shortOption? (Char.ofNat byte.toNat) with
    | some (.switch switch) =>
      match d.turnOn switch with
      | .error stop => .error stop
      | .ok d => addShort d rest
    | some (.slot slot) =>
      let value := if rest.head? = some equality then rest.tail else rest
      d.begin slot (if rest.isEmpty then none else some value)
    | none =>
      let letter :=
        match Text.Utf8.front (byte :: rest) with
        | some (.ok (c, _)) => String.singleton c
        | _ => Text.Utf8.lossy (byte :: rest)
      .error (.fault (.unexpected ("-" ++ letter)))

/-- Takes all arguments that are left; `plain` says whether `--` has been met. -/
def addAll (d : Draft) (plain : Bool) : (arguments : List Bytes) → Except Stop Draft
  | [] => d.settle
  | argument :: rest =>
    if plain then
      match d.addPlain argument with
      | .error stop => .error stop
      | .ok d => addAll d true rest
    else
      match argument with
      | [45, 45] => addAll d true rest
      | 45 :: 45 :: word =>
        match d.addLong word with
        | .error stop => .error stop
        | .ok d => addAll d false rest
      | 45 :: byte :: letters =>
        match d.addShort (byte :: letters) with
        | .error stop => .error stop
        | .ok d => addAll d false rest
      | _ =>
        let next : Except Stop Draft :=
          match d.pending with
          | some (slot, []) => .ok { d with pending := some (slot, [argument]) }
          | _ => d.addPlain argument
        match next with
        | .error stop => .error stop
        | .ok d => addAll d false rest

end Draft

/-- What is asked of the program by arguments. -/
def Arguments.ofList (arguments : List Bytes) : Except Stop Arguments := do
  let d ← Draft.addAll {} false arguments
  match d.pattern with
  | none => throw (.fault .missingArguments)
  | some pattern =>
    return { pattern, targets := d.targets, switches := d.switches, output := d.output,
             color := d.color.getD .never }

/-- Whether a switch is on. -/
def Arguments.has (a : Arguments) (switch : Switch) : Bool := a.switches.contains switch

end TrigramGrep.CommandLine
