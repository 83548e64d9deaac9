import TrigramGrep.Log
import TrigramGrep.Pattern.Meaning
import TrigramGrep.Pattern.Reading
import TrigramGrep.Unicode.Newer

/-!
# Which events are shown

A filter is a list of rules with commas between them.  A rule lets the events from some part of the
program through up to a level.  In brackets it may ask for more: that the event belongs to a named span of
work, or that it has a named field, with or without a value.  Events here belong to no span, and the values
of fields are looked at only within spans, so rules that ask for either let nothing through.

Of the rules that fit an event the one with the longest name decides, and of those the one that asks for a
field.
-/

namespace TrigramGrep.Log

/-! ## Levels -/

/-- How many of the levels are let through, the most important first. -/
abbrev Limit := Nat

/-- All levels are let through. -/
def everything : Limit := 5

/-- The number that decimal digits make. -/
def number? (digits : List Char) : Option Nat :=
  if !digits.isEmpty && digits.all Char.isDigit then
    some (digits.foldl (fun n c => n * 10 + (c.toNat - 48)) 0)
  else none

/-- The limit that a word or a number stands for. -/
def limit? (word : List Char) : Option Limit :=
  let digits := if word.head? = some '+' then word.tail else word
  match number? digits with
  | some n => if n ≤ everything then some n else none
  | none =>
    match String.ofList (word.map Char.toLower) with
    | "" | "error" => some 1
    | "warn" => some 2
    | "info" => some 3
    | "debug" => some 4
    | "trace" => some 5
    | "off" => some 0
    | _ => none

/-! ## Fields -/

/-- What a rule asks of a field: its name, and perhaps its value. -/
structure FieldTest where
  name : List Char
  value : Option (List Char)
  deriving DecidableEq, Repr

/-- A text without the digits at its beginning, and whether there are any. -/
def afterDigits (text : List Char) : List Char × Bool :=
  (text.dropWhile Char.isDigit, text.head?.any Char.isDigit)

/-- Whether a text is an exponent, or empty. -/
def isExponent : List Char → Bool
  | [] => true
  | sign :: rest =>
    (sign = 'e' || sign = 'E') &&
      (number? (if rest.head? = some '+' ∨ rest.head? = some '-' then rest.tail else rest)).isSome

/-- Whether a text is a number in decimal without a sign. -/
def isDecimal (text : List Char) : Bool :=
  let (rest, hasWhole) := afterDigits text
  match rest with
  | '.' :: rest =>
    let (rest, hasPlaces) := afterDigits rest
    (hasWhole || hasPlaces) && isExponent rest
  | rest => hasWhole && isExponent rest

/-- Whether a text is a number with a plus sign.  Numbers without one need no rule of their own: they are
patterns, too. -/
def isPlusNumber : List Char → Bool
  | '+' :: rest =>
    isDecimal rest || ["inf", "infinity", "nan"].contains (String.ofList (rest.map Char.toLower))
  | _ => false

/-- Whether an expression can be the test of a value: it takes whole characters, and words are not those of
Unicode. -/
def isValueTest (r : Regex) : Bool :=
  r.all fun
    | .look (.word _ unicode) => !unicode
    | .charClass (.bytes set) => set.isAscii
    | .literal bytes => (Text.Utf8.decode bytes).toOption.isSome
    | _ => true

/-- Whether a text can be the value in the test of a field: a number or a pattern. -/
def isValue (text : List Char) : Bool :=
  isPlusNumber text ||
    match Pattern.Node.ofText (String.ofList text) >>= Pattern.Node.toRegex false with
    | .ok regex => isValueTest regex
    | .error _ => false

/-- The test of a field that a text is. -/
def fieldTest? (text : List Char) : Option FieldTest :=
  if text.isEmpty then none
  else
    let name := text.takeWhile (· ≠ '=')
    match text.drop name.length with
    | [] => some ⟨name, none⟩
    | _ :: rest =>
      let value := rest.takeWhile (· ≠ '=')
      if isValue value then some ⟨name, some value⟩ else none

/-! ## Rules -/

/-- A rule: the beginning of the names of the parts that it is for, what it asks for in brackets, and what
is let through. -/
structure Rule where
  origin : List Char
  span : Option (List Char) := none
  field : Option FieldTest := none
  limit : Limit
  deriving DecidableEq, Repr

/-- Whether a name can begin with a character. -/
def canBegin (c : Char) : Bool :=
  c = '-' || c = ':' || c = '_' || Unicode.isLetter c || Unicode.isNumber c

/-- A text without the white space around it. -/
def trim (text : List Char) : List Char :=
  let isWhite (c : Char) : Bool := Unicode.whiteSpace.contains c.toNat
  ((text.dropWhile isWhite).reverse.dropWhile isWhite).reverse

/-- A rule while it is read.  The places of its parts are counted without the white space around it, but the
parts are taken with it, so that white space spoils a rule more often than not. -/
structure RuleText where
  /-- The text with the white space around it. -/
  text : List Char
  /-- The text without. -/
  core : List Char

namespace RuleText

/-- The characters between two places. -/
def slice (t : RuleText) (start stop : Nat) : List Char := (t.text.drop start).take (stop - start)

/-- The first place from a given one on that has one of some characters, and the character there. -/
def find? (t : RuleText) (signs : List Char) (start : Nat) : Option (Nat × Char) :=
  let rest := t.core.drop start
  let length := (rest.takeWhile (! signs.contains ·)).length
  rest[length]?.map fun c => (start + length, c)

/-- The limit that stands from a place to the end. -/
def limitFrom? (t : RuleText) (start : Nat) : Option Limit :=
  let word := t.text.drop start
  if word.isEmpty then some everything else limit? word

/-- Ends a rule behind its brackets: with an equality sign and a limit, or with nothing. -/
def ending? (t : RuleText) (rule : Rule) (place : Nat) : Option Rule :=
  match t.core[place]? with
  | none => some rule
  | some '=' => (t.limitFrom? (place + 1)).map fun limit => { rule with limit }
  | some _ => none

/-- Reads a rule from behind the opening bracket on. -/
def brackets? (t : RuleText) (rule : Rule) (start : Nat) : Option Rule := do
  let (stop, sign) ← t.find? [']', '\x7b'] start
  let name := t.slice start stop
  if sign = ']' then t.ending? { rule with span := some name } (stop + 1)
  else
    let (close, _) ← t.find? ['\x7d'] (stop + 1)
    let field ← fieldTest? (t.slice (stop + 1) close)
    if t.core[close + 1]? = some ']' then
      let span := if name.isEmpty then none else some name
      t.ending? { rule with span, field } (close + 2)
    else none

end RuleText

/-- The rule that a text is; `none` when it is no rule. -/
def rule? (text : List Char) : Option Rule :=
  let t : RuleText := ⟨text, trim text⟩
  let rule : Rule := { origin := [], limit := everything }
  match t.core.head? with
  | none => none
  | some '[' => t.brackets? rule 1
  | some c =>
    if !canBegin c then none
    else
      match t.find? ['=', '['] 0 with
      | none =>
        match limit? text with
        | some limit => some { rule with limit }
        | none => some { rule with origin := text }
      | some (place, sign) =>
        let rule := { rule with origin := t.slice 0 place }
        if sign = '[' then t.brackets? rule (place + 1)
        else (t.limitFrom? (place + 1)).map fun limit => { rule with limit }

/-- The pieces of a text between commas, empty ones left out. -/
def pieces (text : List Char) : List (List Char) :=
  ((text.splitBy fun a b => a ≠ ',' && b ≠ ',').filter (· ≠ [',']))

/-- The rules of a filter, if all of them are well formed. -/
def rules? (text : String) : Option (List Rule) := (pieces text.toList).mapM rule?

namespace Rule

/-- Whether a rule can let an event through that belongs to no span. -/
def isPlain (rule : Rule) : Bool := rule.span.isNone && rule.field.all fun test => test.value.isNone

/-- Whether a rule is for an event. -/
def fits (rule : Rule) (e : Event) : Bool :=
  rule.isPlain && rule.origin.isPrefixOf e.origin.toList &&
    rule.field.all fun test => e.fields.contains (String.ofList test.name)

/-- Whether a rule comes before another one that fits the same event. -/
def precedes (rule other : Rule) : Bool :=
  if rule.origin.length ≠ other.origin.length then other.origin.length < rule.origin.length
  else
    match rule.field, other.field with
    | some test, some other => other.name < test.name
    | some _, none => true
    | none, _ => false

end Rule

/-- What rules let through of events like a given one.  Of two rules of the same rank the later one
counts. -/
def limitFor (rules : List Rule) (e : Event) : Limit :=
  let fitting := rules.filter (·.fits e)
  let best := fitting.foldl (fun (best : Option Rule) rule =>
    match best with
    | some other => if other.precedes rule then best else some rule
    | none => some rule) none
  match best with
  | some rule => rule.limit
  | none => 0

/-- Whether rules let an event through. -/
def shows (rules : List Rule) (e : Event) : Bool := e.level.rank ≤ limitFor rules e

/-- The rules that hold where no others are given. -/
def standardRules (isVerbose : Bool) : List Rule :=
  [{ origin := "regrep".toList, limit := if isVerbose then 4 else 3 }]

/-- The rules that a setting gives; one that is missing or malformed gives the standard ones. -/
def rulesOf (setting : Option Bytes) (isVerbose : Bool) : List Rule :=
  let given := setting.bind fun bytes =>
    match Text.Utf8.decode bytes with
    | .ok text => rules? text
    | .error _ => none
  given.getD (standardRules isVerbose)

end TrigramGrep.Log
