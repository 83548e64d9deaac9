import TrigramGrep.CharSet
import TrigramGrep.Unicode.Age
import TrigramGrep.Unicode.BinaryProperty
import TrigramGrep.Unicode.GeneralCategory
import TrigramGrep.Unicode.GraphemeBreak
import TrigramGrep.Unicode.Names
import TrigramGrep.Unicode.Script
import TrigramGrep.Unicode.ScriptExtension
import TrigramGrep.Unicode.SentenceBreak
import TrigramGrep.Unicode.WordBreak

/-!
# Looking up classes of characters by property

A pattern names a class of characters either by one word, which may be a property that holds or does
not hold, a general category or a script, or by a property and one of its values.  Names are compared
loosely: case, spaces, hyphens and underscores do not count, nor does a leading "is".

Three short words name a general category although they are also short for a property: `cf`, `sc` and
`lc`.
-/

namespace TrigramGrep.Unicode

namespace Property

/-- Why a class cannot be looked up. -/
inductive Fault where
  /-- No property, category or script has this name, or no class is known for it. -/
  | unknownProperty
  /-- The property has no such value, or no class is known for it. -/
  | unknownValue
  deriving DecidableEq, Repr

/-- What counts of a character of a name. -/
def reduceChar (c : Char) : Option Char :=
  if c = ' ' ∨ c = '_' ∨ c = '-' then none
  else if c.isUpper then some c.toLower
  else if c.toNat < 128 then some c
  else none

/-- What counts of a name when names are compared. -/
def reduce (name : String) : String :=
  let chars := name.toList
  let starts := (chars.take 2).map Char.toLower = ['i', 's']
  let reduced := (if starts then chars.drop 2 else chars).filterMap reduceChar
  if starts ∧ reduced = ['c'] then "isc" else String.ofList reduced

/-- The name under which a table of names files a spelling. -/
def canonical? (names : List (String × String)) (spelling : String) : Option String :=
  (names.find? fun entry => (entry.2.splitOn " ").contains spelling).map Prod.fst

/-- The set that a table files under a name. -/
def lookup? (table : List (String × String)) (name : String) : Option CharSet :=
  (table.lookup name).map CharSet.ofText

/-- The general categories that a group of categories takes together. -/
def categoryGroup : String → Option (List String)
  | "C" => some ["Cc", "Cf", "Cn", "Co"]
  | "L" => some ["Ll", "Lm", "Lo", "Lt", "Lu"]
  | "LC" => some ["Ll", "Lt", "Lu"]
  | "M" => some ["Mc", "Me", "Mn"]
  | "N" => some ["Nd", "Nl", "No"]
  | "P" => some ["Pc", "Pd", "Pe", "Pf", "Pi", "Po", "Ps"]
  | "S" => some ["Sc", "Sk", "Sm", "So"]
  | "Z" => some ["Zl", "Zp", "Zs"]
  | _ => none

/-- The characters of a general category, or of a group of them, by its short name. -/
def category? (name : String) : Option CharSet :=
  match categoryGroup name with
  | some parts =>
    some (CharSet.ofRanges .characters (parts.flatMap fun part =>
      (lookup? generalCategories part).getD []))
  | none => lookup? generalCategories name

/-- The class that a spelling names among the general categories, if it names one: the categories
and their groups, and the three wider classes of any, assigned and ASCII characters. -/
def categoryClass? (spelling : String) : Option (Except Fault CharSet) :=
  match spelling with
  | "any" => some (.ok [⟨0, 0x10FFFF⟩])
  | "ascii" => some (.ok [⟨0, 0x7F⟩])
  | "assigned" =>
    some (.ok (CharSet.complement .characters ((category? "Cn").getD [])))
  | _ =>
    (canonical? categoryNames spelling).map fun name =>
      match category? name with
      | some set => .ok set
      | none => .error .unknownValue

/-- The set that a table files under a name, or the fault that it files none. -/
def valueClass (table : List (String × String)) (name : String) : Except Fault CharSet :=
  match lookup? table name with
  | some set => .ok set
  | none => .error .unknownValue

/-- The class of a value of a property, given the table of the spellings of its values. -/
def ofValue (names table : List (String × String)) (spelling : String) : Except Fault CharSet :=
  match canonical? names spelling with
  | some name => valueClass table name
  | none => .error .unknownValue

/-- The class that one word names. -/
def ofWord (word : String) : Except Fault CharSet :=
  let spelling := reduce word
  let property? :=
    if ["cf", "sc", "lc"].contains spelling then none else canonical? propertyNames spelling
  match property? with
  | some name =>
    match lookup? binaryProperties name with
    | some set => .ok set
    | none => .error .unknownProperty
  | none =>
    match categoryClass? spelling with
    | some found => found
    | none =>
      match canonical? scriptNames spelling with
      | some name => valueClass scripts name
      | none => .error .unknownProperty

/-- The spellings of a version: with a dot, and as one number behind a `v`. -/
def spellsAge (spelling version : String) : Bool :=
  spelling == version || spelling == "v" ++ String.ofList (version.toList.filter Char.isDigit)

/-- The characters of all versions up to the one that a spelling names. -/
def ofAge (spelling : String) : Except Fault CharSet :=
  if ages.any fun entry => spellsAge spelling entry.1 then
    let older := ages.takeWhile fun entry => !spellsAge spelling entry.1
    let same := (ages.find? fun entry => spellsAge spelling entry.1).toList
    .ok (CharSet.ofRanges .characters ((older ++ same).flatMap fun entry => CharSet.ofText entry.2))
  else .error .unknownValue

/-- The class of a property and one of its values. -/
def ofPair (property value : String) : Except Fault CharSet :=
  let spelling := reduce value
  match canonical? propertyNames (reduce property) with
  | none => .error .unknownProperty
  | some "General_Category" => (categoryClass? spelling).getD (.error .unknownValue)
  | some "Script" => ofValue scriptNames scripts spelling
  | some "Script_Extensions" => ofValue scriptNames scriptExtensions spelling
  | some "Age" => ofAge spelling
  | some "Grapheme_Cluster_Break" => ofValue graphemeBreakNames graphemeBreaks spelling
  | some "Word_Break" => ofValue wordBreakNames wordBreaks spelling
  | some "Sentence_Break" => ofValue sentenceBreakNames sentenceBreaks spelling
  | some _ => .error .unknownValue

end Property

/-! ## Classes that patterns use by themselves -/

/-- The characters of a property that holds or does not hold. -/
def binary (name : String) : CharSet := (Property.lookup? binaryProperties name).getD []

/-- Decimal digits. -/
def digits : CharSet := (Property.category? "Nd").getD []

/-- White space. -/
def whiteSpace : CharSet := binary "White_Space"

/-- Letters. -/
def alphabetic : CharSet := binary "Alphabetic"

/-- Digits and other numbers. -/
def numeric : CharSet := (Property.category? "N").getD []

/-- The characters of words: letters, marks, decimal digits, connecting punctuation and joiners. -/
def wordCharacters : CharSet :=
  CharSet.ofRanges .characters (alphabetic ++ (Property.category? "M").getD [] ++ digits ++
    (Property.category? "Pc").getD [] ++ binary "Join_Control")

/-- The characters that extend the one before them. -/
def graphemeExtenders : CharSet := binary "Grapheme_Extend"

/-- The characters that show nothing, or nothing but a gap, other than the space. -/
def invisible : CharSet :=
  CharSet.diff .characters
    (CharSet.ofRanges .characters
      (["C", "Zl", "Zp", "Zs"].flatMap fun name => (Property.category? name).getD []))
    [⟨32, 32⟩]

end TrigramGrep.Unicode
