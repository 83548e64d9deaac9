import TrigramGrep.Bytes
import TrigramGrep.Regex.Room.Basic

/-!
# The room of plain alternatives

Alternatives that all are plain texts share their beginnings: they form a tree.  A node of the tree takes a
state for each group of branches, since an empty text that stands between others is preferred to the later
ones and divides them.
-/

namespace TrigramGrep.Room

/-- The endings of texts by their first byte, in the order of the bytes. -/
def byFirst (texts : List Bytes) : List (List Bytes) :=
  ((texts.mergeSort fun s t => s.head?.getD 0 ≤ t.head?.getD 0).splitBy fun s t =>
    s.head? = t.head?).map fun group => group.map List.tail

/-- The texts between the empty ones in a list. -/
def segments : List Bytes → List (List Bytes)
  | [] => [[]]
  | [] :: texts => [] :: segments texts
  | text :: texts =>
    match segments texts with
    | [] => [[text]]
    | segment :: segments => (text :: segment) :: segments

/-- The room of several parts. -/
def sum (parts : List Room) : Room := parts.foldl add empty

/-- The room of the branches from a node by the first bytes of texts. -/
def ofGroup (group : List (List Bytes)) : Room :=
  match group with
  | [] => empty
  | [_] => ⟨1, 0⟩
  | group => ⟨1, group.length * perArc⟩

/-- The room of a tree of texts, each at most `depth` bytes long. -/
def ofTree : (depth : Nat) → List Bytes → Room
  | 0, _ => empty
  | depth + 1, texts =>
    if texts.all List.isEmpty then empty
    else
      let texts :=
        if texts.head?.any List.isEmpty then [] :: texts.dropWhile List.isEmpty else texts
      let groups := (segments texts).map byFirst
      let branches := (groups.filter (! ·.isEmpty)).length + (groups.length - 1)
      ⟨1, branches * perLink⟩ +
        sum (groups.map fun group => ofGroup group + sum (group.map (ofTree depth)))

/-- Takes the room of texts as alternatives. -/
def ofTexts (texts : List Bytes) : Charge :=
  charge (⟨1, 0⟩ + ofTree ((texts.map List.length).foldl Nat.max 0) texts)

end TrigramGrep.Room
