import TrigramGrep.Pattern.Cursor

/-!
# What a backslash begins

A backslash makes a sign of the language an ordinary character, or an ordinary letter a sign: a
character by its number, a class by a letter or by a property, or a condition on the position.
`readEscape` starts at the backslash.
-/

namespace TrigramGrep.Pattern

/-- A fault at a stretch, with nothing that it clashes with. -/
def fault {α : Type} (cause : Cause) (extent : Extent) : Except Fault α :=
  .error { cause := cause, extent := extent }

/-! ## Numbers -/

/-- The value of a hexadecimal digit, in either case. -/
def hexValue? (c : Char) : Option Nat :=
  if c.isDigit then some (c.toNat - 48)
  else if 'a' ≤ c ∧ c ≤ 'f' then some (c.toNat - 87)
  else if 'A' ≤ c ∧ c ≤ 'F' then some (c.toNat - 55)
  else none

/-- The number of digits that a letter asks for when no braces follow it. -/
def hexLength (kind : Char) : Nat :=
  if kind = 'x' then 2 else if kind = 'u' then 4 else 8

/-- Reads as many hexadecimal digits as are asked for. -/
def readHexDigits : (count value : Nat) → Reader Nat
  | 0, value, c => .ok (value, c)
  | count + 1, value, c =>
    match c.peek? with
    | none => fault .escapeUnfinished c.here
    | some d =>
      match hexValue? d with
      | none => fault .hexDigit c.character
      | some digit => readHexDigits count (value * 16 + digit) c.bumpBlank

/-- Reads hexadecimal digits up to a closing brace, where it stops; `brace` is the place of the
opening one and `value` the number so far, if there are digits. -/
def readHexInBraces (brace : Nat) (value : Option Nat) (c : Cursor) :
    Except Fault (Option Nat × Cursor) :=
  match _ : c.rest with
  | [] => fault .escapeUnfinished (c.since brace)
  | d :: _ =>
    if d = '}' then .ok (value, c)
    else
      match hexValue? d with
      | none => fault .hexDigit c.character
      | some digit => readHexInBraces brace (some (value.getD 0 * 16 + digit)) c.bumpBlank
termination_by c.rest.length
decreasing_by exact Cursor.length_bumpBlank_lt ‹_›

/-- The character of a number, if it has one. -/
def character? (n : Nat) : Option Char :=
  if n < 0xD800 ∨ (0xE000 ≤ n ∧ n ≤ 0x10FFFF) then some (Char.ofNat n) else none

/-- Reads a character given by its number, from the letter on that says how long the number is.  The
number is `digits` of the pattern. -/
def readHex (start : Nat) : Reader Letter := fun c =>
  let kind := c.peek?.getD 'x'
  let c := c.bumpBlank
  match c.peek? with
  | some '{' => do
    let brace := c.offset
    let (value?, c) ← readHexInBraces brace none c.bumpBlank
    let digits : Extent := ⟨brace + 1, c.offset⟩
    let c := c.bumpBlank
    match value? with
    | none => fault .hexEmpty (c.since brace)
    | some value =>
      match character? value with
      | none => fault .hexNoCharacter digits
      | some char => return (⟨c.since start, char, false⟩, c)
  | _ => do
    let first := c.offset
    let (value, c) ← readHexDigits (hexLength kind) 0 c
    match character? value with
    | none => fault .hexNoCharacter (c.since first)
    | some char => return (⟨c.since start, char, kind = 'x'⟩, c)

/-! ## Classes -/

/-- Splits a text at the first place where another stands. -/
def cutAt? (separator : List Char) : List Char → Option (List Char × List Char)
  | [] => none
  | c :: rest =>
    if separator.isPrefixOf (c :: rest) then some ([], (c :: rest).drop separator.length)
    else (cutAt? separator rest).map fun (before, behind) => (c :: before, behind)

/-- What the text between the braces of a property asks for, and whether it asks for the characters
outside. -/
def PropertyQuery.ofText (text : List Char) : PropertyQuery × Bool :=
  let byValue (sides : List Char × List Char) : PropertyQuery :=
    .byValue (String.ofList sides.1) (String.ofList sides.2)
  match cutAt? ['!', '='] text, (cutAt? [':'] text).or (cutAt? ['='] text) with
  | some sides, _ => (byValue sides, true)
  | none, some sides => (byValue sides, false)
  | none, none => (.byName (String.ofList text), false)

/-- Reads characters up to a closing brace, where it stops; `chars` are those read so far, the last
first. -/
def readToBrace (chars : List Char) (c : Cursor) : Except Fault (List Char × Cursor) :=
  match _ : c.rest with
  | [] => fault .escapeUnfinished c.here
  | d :: _ => if d = '}' then .ok (chars.reverse, c) else readToBrace (d :: chars) c.bumpBlank
termination_by c.rest.length
decreasing_by exact Cursor.length_bumpBlank_lt ‹_›

/-- Reads a class by property, from the letter behind the backslash on.  A capital letter asks for the
characters outside, and so does a sign of inequality; both together cancel out. -/
def readProperty (start : Nat) : Reader Node := fun c => do
  let negated := c.peek? = some 'P'
  let c := c.bumpBlank
  match c.peek? with
  | none => fault .escapeUnfinished c.here
  | some '{' =>
    let (text, c) ← readToBrace [] c.bumpBlank
    let c := c.bump
    let (query, excluded) := PropertyQuery.ofText text
    return (.property (c.since start) query (negated != excluded), c)
  | some '\\' => fault .propertyInvalid c.character
  | some letter =>
    let c := c.bumpBlank
    return (.property (c.since start) (.byName (String.singleton letter)) negated, c)

/-- The class that a letter behind a backslash names, and whether it asks for the characters
outside. -/
def Shorthand.ofLetter? : Char → Option (Shorthand × Bool)
  | 'd' => some (.digit, false)
  | 'D' => some (.digit, true)
  | 's' => some (.space, false)
  | 'S' => some (.space, true)
  | 'w' => some (.word, false)
  | 'W' => some (.word, true)
  | _ => none

/-! ## Conditions on the position -/

/-- The edges of words that have a name in braces. -/
def Assertion.ofName? : List Char → Option Assertion
  | ['s', 't', 'a', 'r', 't'] => some .wordStart
  | ['e', 'n', 'd'] => some .wordStop
  | ['s', 't', 'a', 'r', 't', '-', 'h', 'a', 'l', 'f'] => some .wordStartHalf
  | ['e', 'n', 'd', '-', 'h', 'a', 'l', 'f'] => some .wordStopHalf
  | _ => none

/-- Whether a character can stand in the name of an edge. -/
def isEdgeSign (c : Char) : Bool := c.isAlpha || c = '-'

/-- Reads the signs of the name of an edge; `name` holds those read so far, the last first. -/
def readEdgeName (name : List Char) (c : Cursor) : List Char × Cursor :=
  match _ : c.rest with
  | [] => (name.reverse, c)
  | d :: _ => if isEdgeSign d then readEdgeName (d :: name) c.bumpBlank else (name.reverse, c)
termination_by c.rest.length
decreasing_by exact Cursor.length_bumpBlank_lt ‹_›

/-- Reads the edge of a word that `\b` begins; the cursor stands behind it.  Braces name a special
edge when a letter or a hyphen comes first in them; otherwise they count repetitions and are left. -/
def readWordEdge (start : Nat) : Reader Node := fun c =>
  let plain := (.assertion (c.since start) .wordBoundary, c)
  if c.peek? ≠ some '{' then .ok plain
  else
    let brace := c.offset
    let inside := c.bumpBlank
    match inside.peek? with
    | none => fault .wordEdgeOrCountUnfinished (inside.since start)
    | some d =>
      if !isEdgeSign d then .ok plain
      else
        let (name, c) := readEdgeName [] inside
        if c.peek? ≠ some '}' then fault .wordEdgeUnclosed (c.since brace)
        else
          match Assertion.ofName? name with
          | none => fault .wordEdgeUnknown (c.since inside.offset)
          | some kind =>
            let c := c.bump
            .ok (.assertion (c.since start) kind, c)

/-- The condition that a letter behind a backslash states. -/
def Assertion.ofLetter? : Char → Option Assertion
  | 'A' => some .textStart
  | 'z' => some .textStop
  | 'B' => some .noWordBoundary
  | '<' => some .wordStart
  | '>' => some .wordStop
  | _ => none

/-! ## Any escape -/

/-- The control character that a letter behind a backslash stands for. -/
def controlChar? : Char → Option Char
  | 'a' => some '\x07'
  | 'f' => some '\x0c'
  | 't' => some '\t'
  | 'n' => some '\n'
  | 'r' => some '\r'
  | 'v' => some '\x0b'
  | _ => none

/-- Whether a backslash makes a character stand for itself: all of ASCII but letters, digits and angle
brackets. -/
def isEscapable (c : Char) : Bool :=
  c.toNat < 128 && !c.isAlphanum && c ≠ '<' && c ≠ '>'

/-- Reads an escape, from the backslash on. -/
def readEscape : Reader Node := fun c =>
  let start := c.offset
  let c := c.bump
  match c.peek? with
  | none => fault .escapeUnfinished (c.since start)
  | some d =>
    let behind := c.bump
    let extent := behind.since start
    if d.isDigit then fault .backreference extent
    else if d = 'x' ∨ d = 'u' ∨ d = 'U' then do
      let (letter, c) ← readHex start c
      return (.letter letter, c)
    else if d = 'p' ∨ d = 'P' then readProperty start c
    else if d = 'b' then readWordEdge start behind
    else if isEscapable d then .ok (.letter ⟨extent, d, false⟩, behind)
    else
      match Shorthand.ofLetter? d, controlChar? d, Assertion.ofLetter? d with
      | some (kind, negated), _, _ => .ok (.shorthand extent kind negated, behind)
      | _, some char, _ => .ok (.letter ⟨extent, char, false⟩, behind)
      | _, _, some kind => .ok (.assertion extent kind, behind)
      | _, _, _ => fault .escapeUnknown extent

end TrigramGrep.Pattern
