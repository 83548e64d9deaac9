import TrigramGrep.Regex.Basic

/-!
# The texts with which matches begin

The matches of many expressions begin with one of a few texts.  When each of these texts is a whole match,
and there are no groups and no conditions, then nothing but a search for the texts is needed, and no
automaton.

## Shape of the search for openings

An `Opening` is a text that is either a whole match or only the beginning of one.  `openings` finds the
openings of an expression in order of preference, or `none` when a match may begin with anything.  All of it
is bounded: the members of a class, the copies of a repetition, the length of a text and their number.  What
goes beyond a bound is cut, and is then only a beginning.

`Opening.best?` then makes a set of openings smaller, since fewer and shorter texts are faster to search
for, unless the smaller set is worse than what it was made from.
-/

namespace TrigramGrep

/-- A text with which a match may begin. -/
structure Opening where
  /-- The bytes of the text. -/
  bytes : Bytes
  /-- Whether the text is a whole match. -/
  whole : Bool
  deriving DecidableEq, Repr

namespace Opening

/-- The largest class of which the members are listed. -/
def maxClass : Nat := 10

/-- The largest number of copies of a repetition that are written out. -/
def maxCopies : Nat := 10

/-- The length of the longest text. -/
def maxBytes : Nat := 100

/-- The largest number of texts. -/
def maxCount : Nat := 250

/-- The number of bytes that are kept when there are too many texts. -/
def keptOfMany : Nat := 4

/-- A text as a whole match. -/
def ofBytes (bytes : Bytes) : Opening := ⟨bytes, true⟩

/-- An opening of which no more is known than that it is a beginning. -/
def asBeginning (o : Opening) : Opening := { o with whole := false }

/-- The opening of at most `length` bytes. -/
def cut (length : Nat) (o : Opening) : Opening :=
  if o.bytes.length ≤ length then o else ⟨o.bytes.take length, false⟩

/-- An opening in front of others, with neighbours that have the same text joined. -/
def joinFrom (o : Opening) : List Opening → List Opening
  | [] => [o]
  | next :: rest =>
    if o.bytes = next.bytes then joinFrom ⟨o.bytes, o.whole && next.whole⟩ rest
    else o :: joinFrom next rest

/-- Openings with neighbours that have the same text joined. -/
def join : List Opening → List Opening
  | [] => []
  | o :: rest => joinFrom o rest

/-- The opening of one text followed by another. -/
def append (a b : Opening) : Opening := ⟨a.bytes ++ b.bytes, b.whole⟩

/-- Whether one of some openings has no bytes. -/
def anyEmpty (os : List Opening) : Bool := os.any (·.bytes.isEmpty)

/-! ## Sets of openings

A set of openings is `none` when a match may begin with anything.
-/

/-- Whether nothing that follows can be added to any opening of a set. -/
def isFinished : Option (List Opening) → Bool
  | none => true
  | some os => os.all (! ·.whole)

/-- The openings of what two sets stand for in a row. -/
def followedBy (first second : Option (List Opening)) : Option (List Opening) :=
  match first, second with
  | none, _ => none
  | some as, none => unknown as
  | some as, some bs =>
    if maxCount < as.length * bs.length then unknown as
    else some ((join (as.flatMap fun a => if a.whole then bs.map a.append else [a])).map (cut maxBytes))
where
  /-- The openings of a set that is followed by anything. -/
  unknown (os : List Opening) : Option (List Opening) :=
    if anyEmpty os then none else some ((os.map asBeginning).map (cut maxBytes))

/-- The openings of what two sets stand for as alternatives. -/
def orElse (first second : Option (List Opening)) : Option (List Opening) :=
  match first, second with
  | some as, some bs =>
    if as.length + bs.length ≤ maxCount then some (join (as ++ bs))
    else
      let as := join (as.map (cut keptOfMany))
      let bs := join (bs.map (cut keptOfMany))
      if as.length + bs.length ≤ maxCount then some (join (as ++ bs)) else none
  | _, _ => none

/-- The openings of copies of what a set stands for in a row, behind what another set stands for. -/
def copies (body : Option (List Opening)) : (count : Nat) → Option (List Opening) → Option (List Opening)
  | 0, os => os
  | count + 1, os => if isFinished os then os else copies body count (followedBy os body)

/-- The openings of a class. -/
def ofClass (set : CharClass) : Option (List Opening) :=
  if maxClass < set.set.size then none
  else
    some <| set.set.members.map fun n =>
      match set with
      | .chars _ => ofBytes (Text.Utf8.encode n)
      | .bytes _ => ofBytes [UInt8.ofNat n]

/-- The openings of a repetition. -/
def ofRepetition (min : Nat) (max : Option Nat) (greedy : Bool) (body : Option (List Opening)) :
    Option (List Opening) :=
  if min = 0 then
    let body := if max = some 1 then body else body.map fun os => os.map asBeginning
    if greedy then orElse body (some [ofBytes []]) else orElse (some [ofBytes []]) body
  else
    let os := copies body (Nat.min min maxCopies) (some [ofBytes []])
    if max = some min ∧ min ≤ maxCopies then os else os.map fun os => os.map asBeginning

end Opening

namespace Regex

open Opening

mutual

/-- The texts with which the matches of an expression begin, in order of preference. -/
def openings : Regex → Option (List Opening)
  | .empty => some [ofBytes []]
  | .look _ => some [ofBytes []]
  | .literal bytes => some [(ofBytes bytes).cut maxBytes]
  | .charClass set => Opening.ofClass set
  | .capture _ _ body => openings body
  | .repeated min max greedy body => Opening.ofRepetition min max greedy (openings body)
  | .concat parts => openingsInRow (some [ofBytes []]) parts
  | .alternation parts => openingsOfAny (some []) parts

/-- The openings of expressions in a row behind what a set stands for. -/
def openingsInRow (os : Option (List Opening)) : List Regex → Option (List Opening)
  | [] => os
  | part :: parts =>
    if isFinished os then os else openingsInRow (followedBy os (openings part)) parts

/-- The openings of alternatives behind those of a set. -/
def openingsOfAny (os : Option (List Opening)) : List Regex → Option (List Opening)
  | [] => os
  | part :: parts => openingsOfAny (orElse os (openings part)) parts

end

end Regex

namespace Opening

/-! ## The best openings to search for -/

/-- Whether a byte is frequent in texts. -/
def isFrequent (b : UInt8) : Bool :=
  b ∈ "\n\r (),-./0129:_abcdefghilmnoprstuvxy|".toUTF8.toList || (0x80 ≤ b && b ≤ 0x84) ||
    b ∈ [0x90, 0xB1, 0xB5, 0xB6, 0xB7, 0xB9, 0xBA, 0xBB, 0xBC, 0xBD, 0xBF] || 0xC0 ≤ b

/-- Whether a byte is so frequent that it is no use to search for it alone. -/
def isEverywhere (b : UInt8) : Bool :=
  b ∈ " et".toUTF8.toList || 0xC0 ≤ b

/-- Whether it is no use to search for an opening. -/
def isUseless (o : Opening) : Bool :=
  match o.bytes with
  | [] => true
  | [b] => isEverywhere b
  | _ => false

/-- Openings without those that begin with an earlier one. -/
def withoutExtensions (os : List Opening) : List Opening :=
  os.foldl (fun kept o =>
    if kept.any fun k => k.bytes.isPrefixOf o.bytes then kept else kept ++ [o]) []

/-- The longest beginning of two lists of bytes. -/
def commonBeginning : Bytes → Bytes → Bytes
  | a :: as, b :: bs => if a = b then a :: commonBeginning as bs else []
  | _, _ => []

/-- The longest beginning of all openings. -/
def beginningOfAll : List Opening → Bytes
  | [] => []
  | o :: os => os.foldl (fun start o => commonBeginning start o.bytes) o.bytes

/-- How many bytes are kept of each opening when there are more than some number of them, one step after
the other. -/
def cuts : List (Nat × Nat) := [(5, 10), (4, 10), (3, 64), (2, 64), (1, 10)]

/-- Openings after steps of cutting, up to the first that finds few enough of them. -/
def shorten : List (Nat × Nat) → List Opening → List Opening
  | [], os => os
  | (kept, few) :: steps, os =>
    if os.length ≤ few then os else shorten steps (withoutExtensions (os.map (cut kept)))

/-- The length of the shortest opening. -/
def minLength (os : List Opening) : Nat := ((os.map (·.bytes.length)).min?).getD 0

/-- Openings made fewer and shorter, unless they are whole matches and that would make them worse. -/
def shortened? (os : List Opening) : Option (List Opening) :=
  let short := shorten cuts os
  if os.all (·.whole) then
    if short.any isUseless || minLength short ≤ 2 || 64 < short.length then some os else some short
  else if short.any isUseless then none
  else some short

/-- The best openings to search for in place of some others. -/
def best? (os : List Opening) : Option (List Opening) :=
  if anyEmpty os then none
  else
    let few := withoutExtensions os
    let start := beginningOfAll few
    if 1 < os.length ∧ start.length ≤ 3 ∧ start.head?.any (! isFrequent ·) then
      some (join (few.map (cut 1)))
    else
      let isFast := few.all (·.whole) && few.length ≤ 16
      if 4 < start.length ∨ (1 < start.length ∧ !isFast) then
        shortened? (join (few.map (cut start.length)))
      else shortened? few

end Opening

namespace Regex

/-- Whether an expression has no groups and no conditions. -/
def isUnmarked (r : Regex) : Bool :=
  r.all fun
    | .look _ | .capture .. => false
    | _ => true

/-- The number of plain texts that are always searched for as such. -/
def manyTexts : Nat := 3000

/-- Whether an expression stands for many plain texts. -/
def isManyTexts : Regex → Bool
  | .alternation parts =>
    manyTexts ≤ parts.length && parts.all fun
      | .literal _ => true
      | _ => false
  | _ => false

/-- Whether all that an expression asks for is a search for plain texts. -/
def isTextSearch (r : Regex) : Bool :=
  r.isUnmarked &&
    (r.isManyTexts ||
      match r.openings.bind Opening.best? with
      | some os => !os.isEmpty && !Opening.anyEmpty os && os.all (·.whole)
      | none => false)

end Regex

end TrigramGrep
