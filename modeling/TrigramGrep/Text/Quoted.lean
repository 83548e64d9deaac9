import TrigramGrep.Unicode.Newer

/-!
# Text in quotes

Messages show a text between double quotes in a form that leaves no doubt about its characters: the
quote and the backslash have a backslash in front, and what cannot be seen, or would change the look
of the character before it, is written by name or by number.
-/

namespace TrigramGrep.Text.Quoted

/-- The digits of a number in hexadecimal. -/
def hex (n : Nat) : List Char := Nat.toDigits 16 n

/-- Whether a character is shown by its number: it has no look of its own. -/
def isHidden (c : Char) : Bool :=
  Unicode.isExtender c || Unicode.isInvisible c

/-- The signs that show a character. -/
def showChar (c : Char) : List Char :=
  if c = '\x00' then ['\\', '0']
  else if c = '\t' then ['\\', 't']
  else if c = '\n' then ['\\', 'n']
  else if c = '\r' then ['\\', 'r']
  else if c = '"' ∨ c = '\\' then ['\\', c]
  else if ' ' ≤ c ∧ c ≤ '~' then [c]
  else if isHidden c then ['\\', 'u', '\x7b'] ++ hex c.toNat ++ ['\x7d']
  else [c]

/-- A text between quotes. -/
def quoted (text : String) : String :=
  "\"" ++ String.ofList (text.toList.flatMap showChar) ++ "\""

end TrigramGrep.Text.Quoted
