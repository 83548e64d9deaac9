import TrigramGrep.Regex.Basic
import TrigramGrep.Regex.Room.Basic
import TrigramGrep.Regex.Room.Memo
import TrigramGrep.Text.ByteRanges

/-!
# The room of classes

A class of which every member is one byte takes two states, one of them with an arc for each range.  A
class of characters takes the states of an automaton for the UTF-8 forms of its members.  The forms come as
sequences of byte ranges, in ascending order.

* Read forward, a state is made for each set of sequences that may still follow, from the last bytes to the
  first, and a state with the same arcs as an earlier one is that one.
* Read backward, a state is made for each byte range and what follows it in the text, and all sequences are
  alternatives.

Which earlier states are still known is up to a memo of limited size, so the room depends on the numbers of
the states, and with them on what has been made before.
-/

namespace TrigramGrep

/-- Which way a text is read. -/
inductive Direction where
  | forward
  | backward
  deriving DecidableEq, Repr

namespace Room

/-- The making of the states of a class: the room taken so far and the states that are still known. -/
abbrev Making := StateT (Room × Memo) Option

/-- The number of the state with a key and a number of arcs, which is made if it is not known. -/
def shared (key : List Nat) (arcs : Nat) : Making Nat := fun (room, memo) =>
  match memo.find? key with
  | some number => some (number, room, memo)
  | none =>
    (charge ⟨1, arcs * perArc⟩ room).map fun taken =>
      (room.states, taken, memo.insert key room.states)

/-- Makes a branch without a condition. -/
def branch : Making Unit := fun (room, memo) =>
  (takeLinks 1 room).map fun taken => ((), taken, memo)

/-- The number of the state from which some sequences of at most `depth` byte ranges lead to a target. -/
def ofSequences (target : Nat) : (depth : Nat) → List (List Range) → Making Nat
  | 0, _ => pure target
  | depth + 1, sequences => do
    let groups := (sequences.filter (! ·.isEmpty)).splitBy fun s t => s.head? = t.head?
    if groups.isEmpty then pure target
    else
      let arcs ← groups.mapM fun group => do
        let next ← ofSequences target depth (group.map List.tail)
        pure ((group.head?.bind List.head?).toList.flatMap fun r => [r.low, r.high, next])
      shared arcs.flatten groups.length

/-- The number of the state from which a sequence that is read backward leads to a target. -/
def ofReversed (target : Nat) (sequence : List Range) : Making Nat :=
  sequence.foldlM (fun next r => shared [next, r.low, r.high] 0) target

/-- The number of places for states of a class that is read forward. -/
def forwardPlaces : Nat := 10000

/-- The number of places for states of a class that is read backward. -/
def backwardPlaces : Nat := 1000

/-- Takes the room of sequences of byte ranges as alternatives. -/
def alternativeSequences (direction : Direction) (sequences : List (List Range)) : Charge := fun room =>
  match direction with
  | .forward => do
    let target := room.states
    let room ← takeStates 1 room
    let (_, room, _) ← (ofSequences target 4 sequences).run (room, { size := forwardPlaces })
    pure room
  | .backward => do
    let target := room.states + 1
    let room ← takeStates 2 room
    let making := sequences.forM fun sequence => do
      discard <| ofReversed target sequence
      branch
    let (_, room, _) ← making.run (room, { size := backwardPlaces })
    pure room

/-- Takes the room of a class of which every member is one byte. -/
def singleBytes (set : CharSet) : Charge := fun room => do
  takeBranching set.length (← takeStates 1 room)

/-- Takes the room of a class. -/
def ofClass (direction : Direction) : CharClass → Charge
  | .bytes set => singleBytes set
  | .chars set =>
    if set.isAscii then singleBytes set
    else alternativeSequences direction (set.flatMap Text.Utf8.byteRanges)

end Room

end TrigramGrep
