import TrigramGrep.Json.Input
import TrigramGrep.Text.Utf8

/-!
# Strings of JSON

A string that is looked at has to hold characters only: an escaped surrogate has to be one half of a pair.
In a string that is passed over any four digits will do.
-/

namespace TrigramGrep.Json.Text

/-- The value of a hexadecimal digit. -/
def hexValue? (byte : UInt8) : Option Nat :=
  if isDigit byte then some (digitValue byte)
  else if 97 ≤ byte ∧ byte ≤ 102 then some (byte.toNat - 87)
  else if 65 ≤ byte ∧ byte ≤ 70 then some (byte.toNat - 55)
  else none

/-- The number that four hexadecimal digits make. -/
def readHex (i : Input) : Reading Nat :=
  let digits := i.rest.take 4
  let after : Input := ⟨i.offset + digits.length, i.rest.drop 4⟩
  if digits.length < 4 then after.fault .endInString
  else
    match digits.mapM hexValue? with
    | none => after.fault .badEscape
    | some values => .ok (values.foldl (fun n d => n * 16 + d) 0, after)

/-- The byte that an escape of one letter stands for. -/
def letterValue? (letter : UInt8) : Option UInt8 :=
  if letter = quote ∨ letter = backslash ∨ letter = 47 then some letter
  else if letter = 98 then some 8
  else if letter = 102 then some 12
  else if letter = 110 then some 10
  else if letter = 114 then some 13
  else if letter = 116 then some 9
  else none

/-- The letter before the four digits of a character. -/
def letterU : UInt8 := 117

/-- Whether a number is the first half of a pair of surrogates. -/
def isLeading (n : Nat) : Bool := 0xD800 ≤ n && n ≤ 0xDBFF

/-- Whether a number is the second half of a pair of surrogates. -/
def isTrailing (n : Nat) : Bool := 0xDC00 ≤ n && n ≤ 0xDFFF

/-- The character that a pair of surrogates stands for. -/
def pairValue (leading trailing : Nat) : Nat :=
  (leading - 0xD800) * 0x400 + (trailing - 0xDC00) + 0x10000

/-- The second half of a pair, whose escape has to come next. -/
def readTrailing (leading : Nat) (i : Input) : Reading Bytes :=
  match i.peek? with
  | none => i.fault .endInString
  | some byte =>
    if byte ≠ backslash then i.next.fault .brokenPair
    else
      match i.next.peek? with
      | none => i.next.fault .endInString
      | some byte =>
        if byte ≠ letterU then i.next.next.fault .brokenPair
        else
          match readHex i.next.next with
          | .error fault => .error fault
          | .ok (trailing, after) =>
            if isTrailing trailing then
              .ok (TrigramGrep.Text.Utf8.encode (pairValue leading trailing), after)
            else after.fault .loneSurrogate

/-- What an escape stands for; its backslash has been read. -/
def readEscape (i : Input) : Reading Bytes :=
  match i.peek? with
  | none => i.fault .endInString
  | some letter =>
    if letter = letterU then
      match readHex i.next with
      | .error fault => .error fault
      | .ok (n, after) =>
        if isTrailing n then after.fault .loneSurrogate
        else if isLeading n then readTrailing n after
        else .ok (TrigramGrep.Text.Utf8.encode n, after)
    else
      match letterValue? letter with
      | none => i.next.fault .badEscape
      | some byte => .ok ([byte], i.next)

/-- Whether a byte stands for itself in a string. -/
def isOrdinary (byte : UInt8) : Bool := byte ≠ quote && byte ≠ backslash && 32 ≤ byte

/-- What is left of a string whose first bytes are `done`; `fuel` bounds the number of escapes. -/
def readFrom : (fuel : Nat) → (done : Bytes) → Input → Reading Bytes
  | 0, _, i => i.fault .endInString
  | fuel + 1, done, i =>
    let (ordinary, i) := i.takeWhile isOrdinary
    let done := done ++ ordinary
    match i.peek? with
    | none => i.fault .endInString
    | some byte =>
      if byte = quote then .ok (done, i.next)
      else if byte = backslash then
        match readEscape i.next with
        | .error fault => .error fault
        | .ok (bytes, after) => readFrom fuel (done ++ bytes) after
      else i.next.fault .controlCharacter

/-- A string, whose first quote has been read. -/
def read (i : Input) : Reading String :=
  match readFrom (i.rest.length + 1) [] i with
  | .error fault => .error fault
  | .ok (bytes, after) => .ok (TrigramGrep.Text.Utf8.lossy bytes, after)

/-! ## Strings that are not looked at -/

/-- The input behind an escape, whose backslash has been read. -/
def skipEscape (i : Input) : Except Fault Input :=
  match i.peek? with
  | none => i.fault .endInString
  | some letter =>
    if letter = letterU then
      match readHex i.next with
      | .error fault => .error fault
      | .ok (_, after) => .ok after
    else if (letterValue? letter).isSome then .ok i.next
    else i.next.fault .badEscape

/-- The input behind a string that is being passed over; `fuel` bounds the number of escapes. -/
def skipFrom : (fuel : Nat) → Input → Except Fault Input
  | 0, i => i.fault .endInString
  | fuel + 1, i =>
    let i := (i.takeWhile isOrdinary).2
    match i.peek? with
    | none => i.fault .endInString
    | some byte =>
      if byte = quote then .ok i.next
      else if byte = backslash then
        match skipEscape i.next with
        | .error fault => .error fault
        | .ok after => skipFrom fuel after
      else i.fault .controlCharacter

/-- The input behind a string, whose first quote has been read. -/
def skip (i : Input) : Except Fault Input := skipFrom (i.rest.length + 1) i

end TrigramGrep.Json.Text
