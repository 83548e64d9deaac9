import TrigramGrep.CharSet

/-!
# Patterns as they are written

A pattern is first read into a tree that follows its text: flags are still unresolved, and every node
knows the stretch of the pattern that it was read from, so that a fault can be shown where it
stands.  What a tree means as a regular expression depends on the flags around each node; that is
settled in `Pattern.Meaning`.

Places in a pattern are counted in characters from its beginning.
-/

namespace TrigramGrep.Pattern

/-- A stretch of a pattern, from the character at `start` up to but not including the one at `stop`. -/
structure Extent where
  start : Nat
  stop : Nat
  deriving DecidableEq, Repr, Inhabited

/-- A character that stands for itself. -/
structure Letter where
  extent : Extent
  char : Char
  /-- Whether it is written as `\x` with two digits, which outside of Unicode mode means a byte. -/
  byteForm : Bool
  deriving DecidableEq, Repr

/-! ## Flags -/

/-- The switches that a pattern can turn on and off. -/
inductive Flag where
  | ignoreCase
  | multiLine
  | dotAll
  | swapGreed
  | unicode
  | crlf
  | verbose
  deriving DecidableEq, Repr

/-- One sign of a list of flags. -/
inductive FlagSign where
  /-- Turns a flag on, or off behind the negation. -/
  | flag (flag : Flag)
  /-- From here on flags are turned off. -/
  | negation
  deriving DecidableEq, Repr

namespace FlagSign

/-- What a list of signs does to a flag, if anything. -/
def setting? (flag : Flag) : (on : Bool) → List FlagSign → Option Bool
  | _, [] => none
  | _, .negation :: rest => setting? flag false rest
  | on, .flag other :: rest => if other = flag then some on else setting? flag on rest

end FlagSign

/-! ## Classes -/

/-- The classes that a single letter behind a backslash names. -/
inductive Shorthand where
  | digit
  | space
  | word
  deriving DecidableEq, Repr

/-- A question for a class of characters by property. -/
inductive PropertyQuery where
  /-- By the name of a property, a category or a script. -/
  | byName (name : String)
  /-- By a property and one of its values. -/
  | byValue (property value : String)
  deriving DecidableEq, Repr

/-- The operations between the parts of a bracketed class. -/
inductive SetOperation where
  | intersection
  | difference
  | symmetricDifference
  deriving DecidableEq, Repr

/-- What stands between the brackets of a class. -/
inductive Bracket where
  /-- Nothing, at a place. -/
  | empty (extent : Extent)
  | letter (letter : Letter)
  | range (extent : Extent) (first last : Letter)
  /-- A class of ASCII characters that is asked for by name. -/
  | ascii (extent : Extent) (set : CharSet) (negated : Bool)
  | shorthand (extent : Extent) (kind : Shorthand) (negated : Bool)
  | property (extent : Extent) (query : PropertyQuery) (negated : Bool)
  /-- A bracketed class within another. -/
  | nested (extent : Extent) (negated : Bool) (body : Bracket)
  /-- Several items, all of whose members belong to the class. -/
  | union (extent : Extent) (items : List Bracket)
  | operation (extent : Extent) (kind : SetOperation) (left right : Bracket)
  deriving Repr, Inhabited

namespace Bracket

/-- Where an item stands. -/
def extent : Bracket → Extent
  | .empty extent | .range extent .. | .ascii extent .. | .shorthand extent .. |
    .property extent .. | .nested extent .. | .union extent _ | .operation extent .. => extent
  | .letter l => l.extent

/-- The items of a class, the last first, as one; `place` is where they begin if there is none. -/
def ofItems (place : Nat) : List Bracket → Bracket
  | [] => .empty ⟨place, place⟩
  | [item] => item
  | last :: before =>
    let items := (last :: before).reverse
    .union ⟨(items.headD last).extent.start, last.extent.stop⟩ items

end Bracket

/-! ## Nodes -/

/-- The conditions on positions that a pattern can state. -/
inductive Assertion where
  | lineStart
  | lineStop
  | textStart
  | textStop
  | wordBoundary
  | noWordBoundary
  | wordStart
  | wordStop
  | wordStartHalf
  | wordStopHalf
  deriving DecidableEq, Repr

/-- What an opening parenthesis begins. -/
inductive GroupKind where
  | numbered (index : Nat)
  | named (index : Nat) (name : String)
  | plain (flags : List FlagSign)
  deriving DecidableEq, Repr

/-- A pattern, or a part of one, as it is written. -/
inductive Node where
  | empty (extent : Extent)
  /-- Flags that hold up to the end of the group around them. -/
  | flags (extent : Extent) (signs : List FlagSign)
  | letter (letter : Letter)
  | dot (extent : Extent)
  | assertion (extent : Extent) (kind : Assertion)
  | shorthand (extent : Extent) (kind : Shorthand) (negated : Bool)
  | property (extent : Extent) (query : PropertyQuery) (negated : Bool)
  | bracketed (extent : Extent) (negated : Bool) (body : Bracket)
  | repetition (extent : Extent) (min : Nat) (max : Option Nat) (greedy : Bool) (body : Node)
  | group (extent : Extent) (kind : GroupKind) (body : Node)
  | alternation (extent : Extent) (branches : List Node)
  | concat (extent : Extent) (parts : List Node)
  deriving Repr, Inhabited

namespace Node

/-- Where a node stands. -/
def extent : Node → Extent
  | .empty extent | .flags extent _ | .dot extent | .assertion extent _ | .shorthand extent .. |
    .property extent .. | .bracketed extent .. | .repetition extent .. | .group extent .. |
    .alternation extent _ | .concat extent _ => extent
  | .letter l => l.extent

/-- Whether a repetition operator can follow a node. -/
def isRepeatable : Node → Bool
  | .empty _ | .flags .. => false
  | _ => true

/-- The parts of a sequence, the last first, as one node. -/
def ofParts (extent : Extent) : List Node → Node
  | [] => .empty extent
  | [part] => part
  | parts => .concat extent parts.reverse

end Node

/-! ## Depth -/

namespace Bracket

mutual

/-- The first item that lies under more than `room` others that hold items, if there is one. -/
def tooDeep? : (room : Nat) → Bracket → Option Extent
  | 0, .nested extent .. => some extent
  | room + 1, .nested _ _ body => tooDeep? room body
  | 0, .union extent _ => some extent
  | room + 1, .union _ items => tooDeepAmong? room items
  | 0, .operation extent .. => some extent
  | room + 1, .operation _ _ left right => (tooDeep? room left).or (tooDeep? room right)
  | _, _ => none

/-- The first item of a list, or below one, that lies too deep. -/
def tooDeepAmong? : (room : Nat) → List Bracket → Option Extent
  | _, [] => none
  | room, item :: items => (tooDeep? room item).or (tooDeepAmong? room items)

end

end Bracket

namespace Node

mutual

/-- The first node that lies under more than `room` others that hold nodes, if there is one. -/
def tooDeep? : (room : Nat) → Node → Option Extent
  | 0, .bracketed extent .. => some extent
  | room + 1, .bracketed _ _ body => body.tooDeep? room
  | 0, .repetition extent .. => some extent
  | room + 1, .repetition _ _ _ _ body => tooDeep? room body
  | 0, .group extent .. => some extent
  | room + 1, .group _ _ body => tooDeep? room body
  | 0, .alternation extent _ => some extent
  | room + 1, .alternation _ branches => tooDeepAmong? room branches
  | 0, .concat extent _ => some extent
  | room + 1, .concat _ parts => tooDeepAmong? room parts
  | _, _ => none

/-- The first node of a list, or below one, that lies too deep. -/
def tooDeepAmong? : (room : Nat) → List Node → Option Extent
  | _, [] => none
  | room, node :: nodes => (tooDeep? room node).or (tooDeepAmong? room nodes)

end

end Node

end TrigramGrep.Pattern
