import TrigramGrep.Pattern.Fault
import TrigramGrep.Regex.Build
import TrigramGrep.Unicode.CaseFolding
import TrigramGrep.Unicode.Property

/-!
# What a pattern means

`Node.toRegex` resolves the flags of a pattern: given those that hold at its beginning it turns the
tree of what is written into a regular expression.  Flags set within a group hold up to its end, also
in the alternatives that follow.

In Unicode mode the pattern speaks of characters, otherwise of bytes; then it can ask neither for a
class by property nor for a class with a member outside of ASCII.  A single character outside of
ASCII always stands for its bytes.
-/

namespace TrigramGrep.Pattern

/-- The flags that hold at a place of a pattern. -/
structure Flags where
  ignoreCase : Bool
  multiLine : Bool
  dotAll : Bool
  swapGreed : Bool
  unicode : Bool
  crlf : Bool
  deriving DecidableEq, Repr

namespace Flags

/-- The flags at the beginning of a pattern: anchors go by lines, and Unicode mode is on. -/
def initial (ignoreCase : Bool) : Flags :=
  { ignoreCase := ignoreCase
    multiLine := true
    dotAll := false
    swapGreed := false
    unicode := true
    crlf := false }

/-- The flags after a list of signs. -/
def apply (signs : List FlagSign) (f : Flags) : Flags :=
  let setting (flag : Flag) (now : Bool) := (FlagSign.setting? flag true signs).getD now
  { ignoreCase := setting .ignoreCase f.ignoreCase
    multiLine := setting .multiLine f.multiLine
    dotAll := setting .dotAll f.dotAll
    swapGreed := setting .swapGreed f.swapGreed
    unicode := setting .unicode f.unicode
    crlf := setting .crlf f.crlf }

end Flags

/-! ## Sets -/

/-- The alphabet that classes draw from. -/
def alphabetOf (f : Flags) : Alphabet := if f.unicode then .characters else .bytes

/-- A set of the mode as a class. -/
def classOf (f : Flags) (set : CharSet) : CharClass := if f.unicode then .chars set else .bytes set

/-- A set with the other cases of its members, where case does not count. -/
def foldSet (f : Flags) (set : CharSet) : CharSet :=
  if !f.ignoreCase then set
  else if f.unicode then Unicode.foldCase set
  else Unicode.foldCaseBytes set

/-- A set with the other cases of its members, where case does not count, and then its complement if
that is asked for. -/
def foldAndNegate (f : Flags) (negated : Bool) (set : CharSet) : CharSet :=
  let folded := foldSet f set
  if negated then CharSet.complement (alphabetOf f) folded else folded

/-- The ASCII members of a class by letter. -/
def Shorthand.ascii : Shorthand → CharSet
  | .digit => [⟨48, 57⟩]
  | .space => [⟨9, 13⟩, ⟨32, 32⟩]
  | .word => [⟨48, 57⟩, ⟨65, 90⟩, ⟨95, 95⟩, ⟨97, 122⟩]

/-- The members of a class by letter among all characters. -/
def Shorthand.characters : Shorthand → CharSet
  | .digit => Unicode.digits
  | .space => Unicode.whiteSpace
  | .word => Unicode.wordCharacters

/-- The set that a class by letter means.  These classes hold all cases of their members. -/
def Shorthand.set (kind : Shorthand) (negated : Bool) (f : Flags) : CharSet :=
  let set := if f.unicode then kind.characters else kind.ascii
  if negated then CharSet.complement (alphabetOf f) set else set

/-- The class that a question by property asks for. -/
def PropertyQuery.find : PropertyQuery → Except Unicode.Property.Fault CharSet
  | .byName name => Unicode.Property.ofWord name
  | .byValue property value => Unicode.Property.ofPair property value

/-- The set that a class by property means; `extent` is where it stands. -/
def PropertyQuery.set (query : PropertyQuery) (extent : Extent) (negated : Bool) (f : Flags) :
    Except Fault CharSet :=
  if !f.unicode then .error ⟨.unicodeNotAllowed, extent, none⟩
  else
    match query.find with
    | .ok set => .ok (foldAndNegate f negated set)
    | .error .unknownProperty => .error ⟨.propertyUnknown, extent, none⟩
    | .error .unknownValue => .error ⟨.propertyValueUnknown, extent, none⟩

/-- The byte that a character stands for if it is written as one and characters do not count. -/
def Letter.byte? (letter : Letter) (f : Flags) : Option UInt8 :=
  if !f.unicode && letter.byteForm && 128 ≤ letter.char.toNat then
    some (UInt8.ofNat letter.char.toNat)
  else none

/-- The member of a class that a character stands for. -/
def Letter.member (letter : Letter) (f : Flags) : Except Fault Nat :=
  if f.unicode || letter.char.toNat < 128 || (letter.byte? f).isSome then .ok letter.char.toNat
  else .error ⟨.unicodeNotAllowed, letter.extent, none⟩

/-- The result of an operation on two sets. -/
def SetOperation.apply (kind : SetOperation) (α : Alphabet) (left right : CharSet) : CharSet :=
  match kind with
  | .intersection => CharSet.inter α left right
  | .difference => CharSet.diff α left right
  | .symmetricDifference => CharSet.symmDiff α left right

namespace Bracket

mutual

/-- The set that an item of a class means. -/
def set (f : Flags) : Bracket → Except Fault CharSet
  | .empty _ => .ok []
  | .letter l => do
    return [.single (← l.member f)]
  | .range _ first last => do
    return [.between (← first.member f) (← last.member f)]
  | .ascii _ members negated => .ok (foldAndNegate f negated members)
  | .shorthand _ kind negated => .ok (kind.set negated f)
  | .property extent query negated => query.set extent negated f
  | .nested _ negated body => do
    return foldAndNegate f negated (← set f body)
  | .union _ items => do
    return CharSet.ofRanges (alphabetOf f) (← setOfAll f items)
  | .operation _ kind left right => do
    let left ← set f left
    let right ← set f right
    return kind.apply (alphabetOf f) (foldSet f left) (foldSet f right)

/-- The ranges that a list of items means together. -/
def setOfAll (f : Flags) : List Bracket → Except Fault (List Range)
  | [] => .ok []
  | item :: items => do
    let first ← set f item
    return first ++ (← setOfAll f items)

end

end Bracket

/-! ## Nodes -/

/-- The lines that anchors go by. -/
def lineMode (f : Flags) : LineMode :=
  if !f.multiLine then .whole else if f.crlf then .crlf else .newline

/-- The condition that an assertion means. -/
def Assertion.look (f : Flags) : Assertion → Look
  | .lineStart => .lineStart (lineMode f)
  | .lineStop => .lineStop (lineMode f)
  | .textStart => .lineStart .whole
  | .textStop => .lineStop .whole
  | .wordBoundary => .word .boundary f.unicode
  | .noWordBoundary => .word .noBoundary f.unicode
  | .wordStart => .word .start f.unicode
  | .wordStop => .word .stop f.unicode
  | .wordStartHalf => .word .startHalf f.unicode
  | .wordStopHalf => .word .stopHalf f.unicode

/-- The expression that a dot means. -/
def dotRegex (f : Flags) : Regex :=
  let excluded : CharSet :=
    if f.dotAll then [] else if f.crlf then [.single 10, .single 13] else [.single 10]
  if f.unicode then Regex.characterExcept excluded else Regex.byteExcept excluded

/-- The expression that a character means.  Where case does not count it is the class of its cases, if
there are others. -/
def Letter.toRegex (f : Flags) (letter : Letter) : Regex :=
  match letter.byte? f with
  | some byte => .ofLiteral [byte]
  | none =>
    let codePoint := letter.char.toNat
    let hasCase := if f.unicode then Unicode.hasCase codePoint else letter.char.isAlpha
    if f.ignoreCase && hasCase then .ofClass (classOf f (foldSet f [.single codePoint]))
    else .ofLiteral (Text.Utf8.encode codePoint)

/-- The expression that a group means, given that of its body. -/
def GroupKind.wrap (kind : GroupKind) (body : Regex) : Regex :=
  match kind with
  | .numbered index => .capture index none body
  | .named index name => .capture index (some name) body
  | .plain _ => body

/-- The flags at the beginning of the body of a group. -/
def GroupKind.flags (f : Flags) : GroupKind → Flags
  | .plain signs => f.apply signs
  | _ => f

namespace Node

mutual

/-- The expression that a node means under some flags, and the flags behind it. -/
def meaning (f : Flags) : Node → Except Fault (Regex × Flags)
  | .empty _ => .ok (.empty, f)
  | .flags _ signs => .ok (.empty, f.apply signs)
  | .letter l => .ok (l.toRegex f, f)
  | .dot _ => .ok (dotRegex f, f)
  | .assertion _ kind => .ok (.look (kind.look f), f)
  | .shorthand _ kind negated => .ok (.ofClass (classOf f (kind.set negated f)), f)
  | .property extent query negated => do
    let set ← query.set extent negated f
    return (.ofClass (classOf f set), f)
  | .bracketed _ negated body => do
    let set ← body.set f
    return (.ofClass (classOf f (foldAndNegate f negated set)), f)
  | .repetition _ min max greedy body => do
    let (body, f) ← meaning f body
    return (.ofRepetition min max (greedy != f.swapGreed) body, f)
  | .group _ kind body => do
    let (body, _) ← meaning (kind.flags f) body
    return (kind.wrap body, f)
  | .alternation _ branches => do
    let (branches, f) ← meanings f branches
    return (.ofAlternation branches, f)
  | .concat _ parts => do
    let (parts, f) ← meanings f parts
    return (.ofConcat parts, f)

/-- The expressions that nodes in sequence mean, each under the flags behind the one before. -/
def meanings (f : Flags) : List Node → Except Fault (List Regex × Flags)
  | [] => .ok ([], f)
  | node :: nodes => do
    let (first, f) ← meaning f node
    let (rest, f) ← meanings f nodes
    return (first :: rest, f)

end

/-- The expression that a whole pattern means. -/
def toRegex (ignoreCase : Bool) (node : Node) : Except Fault Regex := do
  let (regex, _) ← node.meaning (.initial ignoreCase)
  return regex

end Node

end TrigramGrep.Pattern
