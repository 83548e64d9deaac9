/-!
# Room

An automaton is made of states, which all take the same room.  A state that branches takes more: some bytes
for a branch without a condition, and more for one that goes by a range of bytes.  `Room` keeps the two
apart, because the number of states made so far is also the number of the next one.

There is only so much room.  A `Charge` takes some of it, on top of what is taken already, and fails when
there is none left.
-/

namespace TrigramGrep

/-- What a part of an automaton takes. -/
structure Room where
  /-- The number of its states. -/
  states : Nat
  /-- The bytes for its branches. -/
  branches : Nat
  deriving DecidableEq, Repr

namespace Room

/-- The bytes for a state. -/
def perState : Nat := 32

/-- The bytes for a branch without a condition. -/
def perLink : Nat := 4

/-- The bytes for a branch that goes by a range of bytes. -/
def perArc : Nat := 8

/-- The bytes that there are. -/
def limit : Nat := 10485760

/-- The bytes of a room. -/
def bytes (room : Room) : Nat := room.states * perState + room.branches

/-- No room. -/
def empty : Room := ⟨0, 0⟩

/-- The room of two parts together. -/
def add (a b : Room) : Room := ⟨a.states + b.states, a.branches + b.branches⟩

instance : Add Room := ⟨add⟩

@[simp] theorem bytes_add (a b : Room) : (a + b).bytes = a.bytes + b.bytes := by
  change (a.states + b.states) * perState + (a.branches + b.branches) = _
  simp only [bytes, perState]
  omega

/-- Takes room on top of what is taken already. -/
abbrev Charge := Room → Option Room

/-- Takes the room of a part. -/
def charge (part : Room) : Charge := fun taken =>
  let taken := taken + part
  if taken.bytes ≤ limit then some taken else none

/-- Takes the room of some states that do not branch. -/
def takeStates (count : Nat) : Charge := charge ⟨count, 0⟩

/-- Takes the room of some branches without a condition. -/
def takeLinks (count : Nat) : Charge := charge ⟨0, count * perLink⟩

/-- Takes the room of a state with branches that go by ranges of bytes. -/
def takeBranching (arcs : Nat) : Charge := charge ⟨1, arcs * perArc⟩

/-- Takes the same room a number of times. -/
def times : (count : Nat) → Charge → Charge
  | 0, _, taken => some taken
  | count + 1, part, taken =>
    match part taken with
    | some taken => times count part taken
    | none => none

end Room

end TrigramGrep
