import TrigramGrep.Output
import TrigramGrep.Regex.Position
import TrigramGrep.Regex.Program
import TrigramGrep.Regex.Tried

/-!
# Finding the first match

A program is run from every position of a text in turn until a run comes to the end of the program.
Within a run the preferred place of a fork is tried first and the other one later, so the match found
is the one that comes first in the order of preference.

No place of the program is tried twice at the same position of the text: what comes of it depends on
the two alone, and it has led to no match, or else the search would be over.  This also holds from
one start to the next, so a search takes no more steps than there are pairs of places and positions,
times the two places of a fork.
-/

namespace TrigramGrep

namespace CharClass

/-- The position behind the member of a class that begins at a position. -/
def take? (set : CharClass) (buffer : Buffer) (position : Nat) : Option Nat :=
  match set with
  | .bytes set =>
    match buffer[position]? with
    | some byte => if CharSet.contains set byte.toNat then some (position + 1) else none
    | none => none
  | .chars set =>
    match buffer[position]? with
    | none => none
    | some byte =>
      if byte < 0x80 then
        if CharSet.contains set byte.toNat then some (position + 1) else none
      else
        match buffer.character? position buffer.size with
        | some (c, length) =>
          if CharSet.contains set c.toNat then some (position + length) else none
        | none => none

end CharClass

namespace Thread

/-- Where a thread goes on, the preferred place first. -/
def next (thread : Thread) (buffer : Buffer) : Instruction → List Thread
  | .take set => (set.take? buffer thread.position).toList.map fun position =>
    ⟨thread.place + 1, position⟩
  | .check condition =>
    if condition.holdsAt buffer thread.position then [⟨thread.place + 1, thread.position⟩] else []
  | .fork first second => [⟨first, thread.position⟩, ⟨second, thread.position⟩]
  | .jump place => [⟨place, thread.position⟩]

end Thread

namespace Program

/-- Runs threads, the first one until it fails before the others, in at most `fuel` steps.  The result
is the position where a thread came to the end, if one did, and all threads that have been tried. -/
def run (program : Program) (buffer : Buffer) :
    (fuel : Nat) → List Thread → Tried → Option Nat × Tried
  | 0, _, tried => (none, tried)
  | _, [], tried => (none, tried)
  | fuel + 1, thread :: waiting, tried =>
    match program[thread.place]? with
    | none => (some thread.position, tried)
    | some instruction =>
      if tried.contains thread then run program buffer fuel waiting tried
      else run program buffer fuel (thread.next buffer instruction ++ waiting) (tried.insert thread)

/-- The number of steps that a run can take: every thread that is tried for the first time adds at most
two. -/
def steps (program : Program) (buffer : Buffer) : Nat :=
  2 * (program.size * (buffer.size + 1)) + 1

/-- Runs a program from `count` positions in turn, and gives the first match. -/
def findFrom (program : Program) (buffer : Buffer) :
    (count position : Nat) → Tried → Option Span
  | 0, _, _ => none
  | count + 1, position, tried =>
    match run program buffer (program.steps buffer) [⟨0, position⟩] tried with
    | (some stop, _) => some ⟨position, stop⟩
    | (none, tried) => findFrom program buffer count (position + 1) (tried.leave position)

/-- The match that starts first at or after a position. -/
def find (program : Program) (buffer : Buffer) (position : Nat) : Option Span :=
  findFrom program buffer (buffer.size + 1 - position) position { first := position }

end Program

end TrigramGrep
