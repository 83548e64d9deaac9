import TrigramGrep.Regex.Edges
import TrigramGrep.Regex.Room.Classes
import TrigramGrep.Regex.Room.Texts

/-!
# The room that an expression takes

A pattern may be short and yet stand for an expression that is too large to search for: repetitions
multiply.  So the room of the automaton of an expression is reckoned before anything is built, for both
directions of reading a text, and an expression is refused when one of them takes more than there is.

## Shape of the reckoning

The room of a part depends on where it stands, so each part takes its room on top of what the earlier ones
have taken.

* A character takes a state for each of its bytes.
* A repetition takes its body as often as it is written out, and states that branch.
* Groups are marked by states before and behind them, but only when the text is read forward.
* Alternatives that all are plain texts share their beginnings, or their endings when the text is read
  backward.
-/

namespace TrigramGrep.Regex

open Room

/-- The bytes of an expression that is a plain text. -/
def plainText? : Regex → Option Bytes
  | .literal bytes => some bytes
  | _ => none

/-- Takes the room of a number of copies of a body in a row. -/
def takeCopies (count : Nat) (body : Charge) : Charge :=
  if count = 0 then takeStates 1 else times count body

/-- Takes the room of a repetition without an upper bound. -/
def takeUnbounded (min : Nat) (bodyCanBeEmpty : Bool) (body : Charge) : Charge :=
  if min = 0 then
    if bodyCanBeEmpty then body >=> takeStates 3 >=> takeLinks 4
    else takeStates 1 >=> body >=> takeLinks 2
  else times min body >=> takeStates 1 >=> takeLinks 2

/-- Takes the room of a repetition with an upper bound. -/
def takeBounded (min max : Nat) (body : Charge) : Charge :=
  if max = min then takeCopies min body
  else if min = 0 ∧ max = 1 then takeStates 1 >=> body >=> takeStates 1 >=> takeLinks 2
  else
    takeCopies min body >=> takeStates 1 >=>
      times (max - min) (takeStates 1 >=> body >=> takeLinks 2)

mutual

/-- Takes the room of the part of an automaton that is made for an expression. -/
def takeRoom (direction : Direction) : Regex → Charge
  | .empty => takeStates 1
  | .look _ => takeStates 1
  | .literal bytes => takeStates bytes.length
  | .charClass set => Room.ofClass direction set
  | .capture _ _ body =>
    match direction with
    | .forward => takeStates 1 >=> takeRoom direction body >=> takeStates 1
    | .backward => takeRoom direction body
  | .repeated min none _ body =>
    takeUnbounded min (body.minLength.getD 0 = 0) (takeRoom direction body)
  | .repeated min (some max) _ body => takeBounded min max (takeRoom direction body)
  | .concat parts => if parts.isEmpty then takeStates 1 else takeSequence direction parts
  | .alternation parts =>
    match parts.mapM plainText? with
    | some (text :: next :: texts) =>
      ofTexts <| match direction with
        | .forward => text :: next :: texts
        | .backward => (text :: next :: texts).map List.reverse
    | _ => takeAlternatives direction 0 parts

/-- Takes the room of expressions in a row, the one that is read first before the others. -/
def takeSequence (direction : Direction) : List Regex → Charge
  | [] => some
  | part :: parts =>
    match direction with
    | .forward => takeRoom direction part >=> takeSequence direction parts
    | .backward => takeSequence direction parts >=> takeRoom direction part

/-- Takes the room of alternatives, `earlier` of which have been met.  With the second one comes what
divides them and what brings them together again. -/
def takeAlternatives (direction : Direction) (earlier : Nat) : List Regex → Charge
  | [] => if earlier = 0 then takeStates 1 else some
  | part :: parts =>
    takeRoom direction part >=>
      (match earlier with
        | 0 => some
        | 1 => takeStates 2 >=> takeLinks 2
        | _ => takeLinks 1) >=>
      takeAlternatives direction (earlier + 1) parts

end

/-- Whether every match of an expression is tied to the side from which a text is read. -/
def isTied (direction : Direction) (r : Regex) : Bool :=
  match direction with
  | .forward => r.isTiedToStart
  | .backward => r.isTiedToStop

/-- Takes the room of the whole automaton of an expression.  Unless the expression is tied to the side from
which the text is read, a loop in front of it lets a match begin anywhere. -/
def takeTotal (direction : Direction) (r : Regex) : Charge :=
  let front := if r.isTied direction then takeStates 1 else charge ⟨3, 2 * perLink + perArc⟩
  match direction with
  | .forward => front >=> takeStates 1 >=> takeRoom direction r >=> takeStates 2
  | .backward => front >=> takeRoom direction r >=> takeStates 1

/-- Whether there is room for an expression. -/
def hasRoom (r : Regex) : Bool :=
  (r.takeTotal .forward Room.empty).isSome && (r.takeTotal .backward Room.empty).isSome

end TrigramGrep.Regex
