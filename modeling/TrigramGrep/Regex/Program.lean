import TrigramGrep.Regex.Pruned

/-!
# Programs that match

A regular expression is laid out as a list of instructions, one behind the other.  An instruction takes
a member of a class, checks a condition, or sends the run somewhere else; a fork sends it to two
places, the preferred one first.  A run that comes to the end of the program has found a match.

## Repetitions

Counted repetitions are written out.  A repetition without bound ends in a fork back to its last copy,
so that a body that took no bytes does not keep the run from going on: `body*` is laid out as
`(body+)?`.
-/

namespace TrigramGrep

/-- A step of a program; places are numbers of instructions. -/
inductive Instruction where
  /-- Takes a member of a class. -/
  | take (set : CharClass)
  /-- Goes on if a condition holds. -/
  | check (condition : Look)
  /-- Goes to two places, preferring the first. -/
  | fork (first second : Nat)
  /-- Goes to a place. -/
  | jump (place : Nat)
  deriving DecidableEq, Repr

/-- The instructions of a program in order. -/
abbrev Program := Array Instruction

namespace Program

/-- A fork between a body and what lies behind it; a greedy one prefers the body. -/
def choice (greedy : Bool) (body exit : Nat) : Instruction :=
  if greedy then .fork body exit else .fork exit body

/-- Applies a layout a number of times. -/
def times (layout : Program → Program) : Nat → Program → Program
  | 0, program => program
  | n + 1, program => times layout n (layout program)

mutual

/-- The number of instructions of an expression. -/
def length : Regex → Nat
  | .empty => 0
  | .look _ => 1
  | .literal bytes => bytes.length
  | .charClass _ => 1
  | .capture _ _ body => length body
  | .repeated min max _ body =>
    match max with
    | some max => min * length body + (max - min) * (length body + 1)
    | none => if min = 0 then length body + 2 else min * length body + 1
  | .concat parts => lengthAll parts
  | .alternation parts => lengthAny parts

/-- The number of instructions of parts in sequence. -/
def lengthAll : List Regex → Nat
  | [] => 0
  | part :: parts => length part + lengthAll parts

/-- The number of instructions of alternatives: each but the last has a fork and a jump around it. -/
def lengthAny : List Regex → Nat
  | [] => 0
  | [part] => length part
  | part :: parts => length part + 2 + lengthAny parts

end

mutual

/-- Lays out an expression behind a program. -/
def layOut : Regex → Program → Program
  | .empty => fun program => program
  | .look condition => fun program => program.push (.check condition)
  | .literal bytes => fun program =>
    bytes.foldl (fun program byte => program.push (.take (.bytes [.single byte.toNat]))) program
  | .charClass set => fun program => program.push (.take set)
  | .capture _ _ body => layOut body
  | .repeated min max greedy body => fun program =>
    match max with
    | some max =>
      let program := times (layOut body) min program
      let exit := program.size + (max - min) * (length body + 1)
      times (fun program => layOut body (program.push (choice greedy (program.size + 1) exit)))
        (max - min) program
    | none =>
      if min = 0 then
        let start := program.size + 1
        let exit := start + length body + 1
        (layOut body (program.push (choice greedy start exit))).push (choice greedy start exit)
      else
        let program := times (layOut body) (min - 1) program
        let start := program.size
        (layOut body program).push (choice greedy start (start + length body + 1))
  | .concat parts => layOutAll parts
  | .alternation parts => fun program =>
    if parts.isEmpty then program.push (.take (.bytes []))
    else layOutAny parts (program.size + lengthAny parts) program

/-- Lays out parts in sequence. -/
def layOutAll : List Regex → Program → Program
  | [] => fun program => program
  | part :: parts => fun program => layOutAll parts (layOut part program)

/-- Lays out alternatives, each of which goes on at `exit`. -/
def layOutAny : List Regex → (exit : Nat) → Program → Program
  | [], _ => fun program => program
  | [part], _ => layOut part
  | part :: parts, exit => fun program =>
    let start := program.size + 1
    let program := layOut part (program.push (.fork start (start + length part + 1)))
    layOutAny parts exit (program.push (.jump exit))

end

/-- The program of an expression. -/
def ofRegex (r : Regex) : Program := layOut r.pruned #[]

end Program

end TrigramGrep
