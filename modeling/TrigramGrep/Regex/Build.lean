import TrigramGrep.Regex.Basic

/-!
# Building regular expressions in simple form

Trees are built bottom up with the constructors of this module.  None of them changes what an
expression matches, and each puts the tree into a simpler shape: no empty parts and no nested nodes
of the same kind, neighbouring literals joined, repetitions of what takes no bytes cut to at most
one, and alternations of single characters, or of classes alone, turned into one class.  Alternatives that
begin alike have the common beginning taken out in front.
-/

namespace TrigramGrep.Regex

/-- The expression for a string of bytes. -/
def ofLiteral (bytes : Bytes) : Regex :=
  if bytes.isEmpty then .empty else .literal bytes

/-- The expression for a class; a class of one member is a literal. -/
def ofClass : CharClass → Regex
  | .chars [⟨low, high⟩] =>
    if low = high then .literal (Text.Utf8.encode low) else .charClass (.chars [⟨low, high⟩])
  | .bytes [⟨low, high⟩] =>
    if low = high then .literal [UInt8.ofNat low] else .charClass (.bytes [⟨low, high⟩])
  | .chars [] => fail
  | set => .charClass set

/-- The expression for a repetition.  What takes no bytes need not be taken more than once. -/
def ofRepetition (min : Nat) (max : Option Nat) (greedy : Bool) (body : Regex) : Regex :=
  let zeroWidth := body.maxLength = some 0
  let min := if zeroWidth then Nat.min min 1 else min
  let max := if zeroWidth then some (Nat.min (max.getD 1) 1) else max
  if min = 0 ∧ max = some 0 then .empty
  else if min = 1 ∧ max = some 1 then body
  else .repeated min max greedy body

/-- The parts of an expression seen as a concatenation. -/
def factors : Regex → List Regex
  | .concat parts => parts
  | .empty => []
  | r => [r]

/-- A list of parts with neighbouring literals joined. -/
def joinLiterals : List Regex → List Regex
  | [] => []
  | .literal s :: rest =>
    match joinLiterals rest with
    | .literal t :: rest => .literal (s ++ t) :: rest
    | rest => .literal s :: rest
  | r :: rest => r :: joinLiterals rest

/-- The expression for parts in sequence. -/
def ofConcat (parts : List Regex) : Regex :=
  match joinLiterals (parts.flatMap factors) with
  | [] => .empty
  | [part] => part
  | parts => .concat parts

/-- The parts of an expression seen as an alternation. -/
def alternatives : Regex → List Regex
  | .alternation parts => parts
  | r => [r]

/-- The character that an expression stands for, when it is a literal of just one. -/
def character? : Regex → Option Nat
  | .literal bytes =>
    match Text.Utf8.front bytes with
    | some (.ok (c, n)) => if n = bytes.length then some c.toNat else none
    | _ => none
  | _ => none

/-- The byte that an expression stands for, when it is a literal of just one. -/
def byte? : Regex → Option Nat
  | .literal [byte] => some byte.toNat
  | _ => none

/-- The characters that a class stands for, when it is one of characters or its bytes are all ASCII. -/
def classCharacters? : Regex → Option CharSet
  | .charClass (.chars set) => some set
  | .charClass (.bytes set) => if set.isAscii then some set else none
  | _ => none

/-- The bytes that a class stands for, when it is one of bytes or its characters are all ASCII. -/
def classBytes? : Regex → Option CharSet
  | .charClass (.bytes set) => some set
  | .charClass (.chars set) => if set.isAscii then some set else none
  | _ => none

/-- The class that a list of alternatives amounts to, when all are single members or all are classes. -/
def commonClass? (parts : List Regex) : Option CharClass :=
  match parts.mapM character? with
  | some cs => some (.chars (CharSet.ofRanges .characters (cs.map .single)))
  | none =>
    match parts.mapM byte? with
    | some bs => some (.bytes (CharSet.ofRanges .bytes (bs.map .single)))
    | none =>
      match parts.mapM classCharacters? with
      | some sets => some (.chars (CharSet.ofRanges .characters sets.flatten))
      | none =>
        (parts.mapM classBytes?).map fun sets => .bytes (CharSet.ofRanges .bytes sets.flatten)

/-- The longest list that begins both lists. -/
def commonStart : List Regex → List Regex → List Regex
  | a :: as, b :: bs => if a = b then a :: commonStart as bs else []
  | _, _ => []

/-- The parts of a concatenation; `none` for any other expression. -/
def sequence? : Regex → Option (List Regex)
  | .concat parts => some parts
  | _ => none

/-- The beginning that all alternatives share, and what is left of each, when they are
concatenations that share one. -/
def shared? (parts : List Regex) : Option (List Regex × List (List Regex)) :=
  match parts.mapM sequence? with
  | some (first :: rest) =>
    let start := rest.foldl commonStart first
    if start.isEmpty then none
    else some (start, (first :: rest).map fun sequence => sequence.drop start.length)
  | _ => none

/-- The expression for alternatives.  Every common beginning that is taken out makes the alternatives
smaller, so as many steps as they have nodes are enough. -/
def ofAlternationIn : (steps : Nat) → List Regex → Regex
  | 0, parts => .alternation parts
  | steps + 1, parts =>
    match parts.flatMap alternatives with
    | [] => fail
    | [part] => part
    | parts =>
      match commonClass? parts with
      | some set => ofClass set
      | none =>
        match shared? parts with
        | some (start, rests) =>
          ofConcat (start ++ [ofAlternationIn steps (rests.map ofConcat)])
        | none => .alternation parts

/-- The expression for alternatives, the preferred one first. -/
def ofAlternation (parts : List Regex) : Regex :=
  ofAlternationIn (nodesOf parts + 1) parts

/-! ## Common expressions -/

/-- Any character. -/
def anyCharacter : Regex := .charClass (.chars [⟨0, 0x10FFFF⟩])

/-- Any byte. -/
def anyByte : Regex := .charClass (.bytes [⟨0, 255⟩])

/-- Any character but those of a class. -/
def characterExcept (set : CharSet) : Regex :=
  .charClass (.chars (CharSet.complement .characters set))

/-- Any byte but those of a class. -/
def byteExcept (set : CharSet) : Regex :=
  .charClass (.bytes (CharSet.complement .bytes set))

end TrigramGrep.Regex
