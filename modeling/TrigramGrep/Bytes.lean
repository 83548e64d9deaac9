/-!
# Byte strings

Contents of files, paths, literals of patterns and whole index files are all plain lists of bytes.
This module holds the type and the few operations on it that every other module shares: the newline
that ends a line, the pieces between newlines, and the printable-ASCII form used when bytes appear
inside a report.

## Shape of the lines of a text

`Bytes.lines` cuts a text after every newline, so that joining the pieces gives the text back and
every piece but the last ends in a newline.  A text that ends in a newline has no empty last piece,
and the empty text has no piece at all.
-/

namespace TrigramGrep

/-- A string of bytes. -/
abbrev Bytes := List UInt8

namespace Bytes

/-- The byte that ends a line. -/
def newline : UInt8 := 10

/-- The pieces of a text, each reaching up to and including the next newline. -/
def lines (text : Bytes) : List Bytes :=
  text.splitBy fun byte _ => byte != newline

/-- Whether a piece ends in a newline. -/
def endsInNewline (piece : Bytes) : Bool :=
  piece.getLast? == some newline

/-- A line without the newline that ends it, if one does. -/
def body (line : Bytes) : Bytes :=
  if line.endsInNewline then line.dropLast else line

/-- The order of byte strings as a Boolean test: byte by byte, a proper beginning first. -/
def le (a b : Bytes) : Bool :=
  decide (a ≤ b)

/-- The bytes of a text in its UTF-8 form. -/
def ofString (s : String) : Bytes :=
  s.toUTF8.toList

/-! ## Printable form -/

/-- The lower-case hexadecimal digit of a number below sixteen. -/
def hexDigit (n : Nat) : Char :=
  if n < 10 then Char.ofNat (48 + n) else Char.ofNat (87 + n)

/-- The two hexadecimal digits of a byte. -/
def hexPair (byte : UInt8) : List Char :=
  [hexDigit (byte.toNat / 16), hexDigit (byte.toNat % 16)]

/-- One byte inside double quotes: the common control bytes, the quotes and the backslash by their
two-character escapes, other printable ASCII as itself, and all else by two hexadecimal digits. -/
def escapeByte (byte : UInt8) : List Char :=
  if byte = 9 then ['\\', 't']
  else if byte = 13 then ['\\', 'r']
  else if byte = 10 then ['\\', 'n']
  else if byte = 39 then ['\\', '\'']
  else if byte = 34 then ['\\', '"']
  else if byte = 92 then ['\\', '\\']
  else if 32 ≤ byte ∧ byte < 127 then [Char.ofNat byte.toNat]
  else '\\' :: 'x' :: hexPair byte

/-- A byte string in its printable form. -/
def escape (bytes : Bytes) : List Char :=
  bytes.flatMap escapeByte

/-- A byte string as plain hexadecimal digits. -/
def toHex (bytes : Bytes) : String :=
  String.ofList (bytes.flatMap hexPair)

end Bytes

end TrigramGrep
