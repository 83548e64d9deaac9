import TrigramGrep.Decimal.Shortest
import TrigramGrep.Text.Quoted
import TrigramGrep.Bytes

/-!
# Reading JSON

A document is read once from left to right, and what is read is checked against what is expected at the
same time.  So the first fault ends the reading, whether it lies in the form of the document or in a value
that is not the expected one.

A reader takes the input that is left and gives what it read and the input behind it.  A fault carries
the number of bytes up to the place where it shows, from which line and column are told at the end.
-/

namespace TrigramGrep.Json

/-- A value that stands where another one is expected. -/
inductive Found where
  | null
  | boolean (value : Bool)
  | integer (value : Int)
  | decimal (text : String)
  | string (value : String)
  | array
  | object
  deriving DecidableEq, Repr

namespace Found

/-- A value in words. -/
def text : Found → String
  | .null => "null"
  | .boolean value => "boolean `" ++ toString value ++ "`"
  | .integer value => "integer `" ++ toString value ++ "`"
  | .decimal value => "floating point `" ++ value ++ "`"
  | .string value => "string " ++ Text.Quoted.quoted value
  | .array => "sequence"
  | .object => "map"

end Found

/-- What is wrong with a document. -/
inductive Cause where
  | endInArray
  | endInObject
  | endInString
  | endInValue
  | noColon
  | noCommaInArray
  | noCommaInObject
  | noWord
  | noValue
  | badEscape
  | badNumber
  | numberTooLarge
  | controlCharacter
  | keyNoString
  | loneSurrogate
  /-- Half of a pair of surrogates without the other half. -/
  | brokenPair
  | trailingComma
  | trailingCharacters
  | wrongType (found : Found) (expected : String)
  | wrongValue (found : Found) (expected : String)
  | duplicate (field : String)
  deriving DecidableEq, Repr

namespace Cause

/-- What is wrong, in words. -/
def text : Cause → String
  | .endInArray => "EOF while parsing a list"
  | .endInObject => "EOF while parsing an object"
  | .endInString => "EOF while parsing a string"
  | .endInValue => "EOF while parsing a value"
  | .noColon => "expected `:`"
  | .noCommaInArray => "expected `,` or `]`"
  | .noCommaInObject => "expected `,` or `\x7d`"
  | .noWord => "expected ident"
  | .noValue => "expected value"
  | .badEscape => "invalid escape"
  | .badNumber => "invalid number"
  | .numberTooLarge => "number out of range"
  | .controlCharacter => "control character (\\u0000-\\u001F) found while parsing a string"
  | .keyNoString => "key must be a string"
  | .loneSurrogate => "lone leading surrogate in hex escape"
  | .brokenPair => "unexpected end of hex escape"
  | .trailingComma => "trailing comma"
  | .trailingCharacters => "trailing characters"
  | .wrongType found expected => "invalid type: " ++ found.text ++ ", expected " ++ expected
  | .wrongValue found expected => "invalid value: " ++ found.text ++ ", expected " ++ expected
  | .duplicate field => "duplicate field `" ++ field ++ "`"

end Cause

/-- What is wrong and how many bytes lie before the place where it shows. -/
structure Fault where
  cause : Cause
  offset : Nat
  deriving DecidableEq, Repr

/-- A fault of a document in words, with its line and column.  Columns count bytes. -/
def Fault.message (document : Bytes) (fault : Fault) : String :=
  let before := document.take fault.offset
  let line := 1 + before.count Bytes.newline
  let column := (before.reverse.takeWhile (· ≠ Bytes.newline)).length
  fault.cause.text ++ " at line " ++ toString line ++ " column " ++ toString column

/-- What is left of a document, and how many bytes lie before it. -/
structure Input where
  offset : Nat
  rest : Bytes
  deriving DecidableEq, Repr

/-- What a reader gives: what it read and the input behind it. -/
abbrev Reading (α : Type) := Except Fault (α × Input)

namespace Input

/-- The whole of a document. -/
def ofBytes (document : Bytes) : Input := ⟨0, document⟩

/-- The next byte. -/
def peek? (i : Input) : Option UInt8 := i.rest.head?

/-- The input behind the next byte. -/
def next (i : Input) : Input :=
  match i.rest with
  | [] => i
  | _ :: rest => ⟨i.offset + 1, rest⟩

/-- A fault that shows before the next byte. -/
def fault (i : Input) (cause : Cause) : Except Fault α := .error ⟨cause, i.offset⟩

/-- A fault that shows at the next byte, or at the end of the document. -/
def faultAhead (i : Input) (cause : Cause) : Except Fault α := i.next.fault cause

/-- The input behind the first bytes that pass a test, and these bytes. -/
def takeWhile (i : Input) (test : UInt8 → Bool) : Bytes × Input :=
  let taken := i.rest.takeWhile test
  (taken, ⟨i.offset + taken.length, i.rest.drop taken.length⟩)

/-- Whether a byte is blank between the parts of a document. -/
def isBlank (byte : UInt8) : Bool := byte = 32 || byte = 10 || byte = 9 || byte = 13

/-- The input behind all blanks. -/
def skipBlank (i : Input) : Input := (i.takeWhile isBlank).2

/-- The input behind a word that has to come next. -/
def expect (i : Input) : (word : Bytes) → Except Fault Input
  | [] => .ok i
  | byte :: word =>
    match i.peek? with
    | none => i.fault .endInValue
    | some found => if found = byte then expect i.next word else i.next.fault .noWord

end Input

/-! ## Bytes with a meaning -/

/-- The comma between members and between elements. -/
def comma : UInt8 := 44

/-- The colon behind a key. -/
def colon : UInt8 := 58

/-- The quote around a string. -/
def quote : UInt8 := 34

/-- The byte that begins an escape. -/
def backslash : UInt8 := 92

/-- The byte that begins an array. -/
def openArray : UInt8 := 91

/-- The byte that ends an array. -/
def closeArray : UInt8 := 93

/-- The byte that begins an object. -/
def openObject : UInt8 := 123

/-- The byte that ends an object. -/
def closeObject : UInt8 := 125

/-- The sign of a negative number. -/
def minus : UInt8 := 45

/-- Whether a byte is a digit. -/
def isDigit (byte : UInt8) : Bool := 48 ≤ byte && byte ≤ 57

/-- The value of a digit. -/
def digitValue (byte : UInt8) : Nat := byte.toNat - 48

end TrigramGrep.Json
