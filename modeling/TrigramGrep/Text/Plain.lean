/-!
# Text without commands to a terminal

A terminal takes some sequences of characters for commands.  A sequence begins with an escape character, and
its first characters tell where it ends.  `Text.Plain.ofText` leaves out all commands, and all control
characters but those that stand for a gap.

## Shape of a sequence

* An escape character and one more, with characters from the space to the slash between them.
* A control sequence: an opening bracket, parameters, and a final character.
* A device string, or another string of commands: any characters up to the sign that ends strings.
* A command to the system that the terminal belongs to: any characters up to a bell.

Another escape character begins a new sequence anywhere.  A gap within one of the first two kinds is shown,
and so is all plain text behind it; the sequence goes on where the text meets a control character.
-/

namespace TrigramGrep.Text.Plain

/-- A place within the commands of a text. -/
inductive Place where
  /-- Outside of sequences. -/
  | outside
  /-- Behind an escape character. -/
  | escape
  /-- Behind an escape character and other characters that do not end the sequence. -/
  | escapeSign
  /-- Within a control sequence. -/
  | control
  /-- At the beginning of a device string. -/
  | deviceStart
  /-- Within the parameters of a device string. -/
  | deviceParameter
  /-- Behind the parameters of a device string. -/
  | deviceSign
  /-- Within a string of commands. -/
  | string
  /-- Within a command to the system. -/
  | system
  deriving DecidableEq, Repr

/-- Whether a character lies between two others. -/
def within (low high c : Char) : Bool := low ≤ c && c ≤ high

/-- Whether a byte of the UTF-8 form of a character is the sign that ends strings. -/
def endsString (c : Char) : Bool := (String.singleton c).toUTF8.toList.contains 0x9C

namespace Place

/-- The place behind an escape character and one more. -/
def afterEscape (c : Char) : Place :=
  if within ' ' '/' c then .escapeSign
  else if c = '[' then .control
  else if c = ']' then .system
  else if c = 'P' then .deviceStart
  else if c = 'X' ∨ c = '^' ∨ c = '_' then .string
  else if within '0' '~' c then .outside
  else .escape

/-- The place behind a character of the beginning of a device string. -/
def afterDevice (place : Place) (c : Char) : Place :=
  if within '@' '~' c then .string
  else if within ' ' '/' c then .deviceSign
  else if within '0' '?' c then
    match place with
    | .deviceStart => .deviceParameter
    | .deviceParameter => if within '<' '?' c then .string else .deviceParameter
    | _ => .string
  else place

/-- The place behind a character. -/
def next (place : Place) (c : Char) : Place :=
  if c = '\x1b' then .escape
  else if c = '\x18' ∨ c = '\x1a' then .outside
  else
    match place with
    | .outside => .outside
    | .escape => afterEscape c
    | .escapeSign => if within '0' '~' c then .outside else .escapeSign
    | .control => if within '@' '~' c then .outside else .control
    | .string => if endsString c then .outside else .string
    | .system => if c = '\x07' then .outside else .system
    | .deviceStart | .deviceParameter | .deviceSign => place.afterDevice c

/-- Whether gaps are shown at a place. -/
def showsGaps : Place → Bool
  | .outside | .escape | .escapeSign | .control => true
  | _ => false

/-- Whether a character is shown at a place. -/
def shows (place : Place) (c : Char) : Bool :=
  (place.showsGaps && ['\t', '\n', '\x0c', '\r'].contains c) ||
    (place = .outside && ' ' ≤ c && c ≠ '\x7f')

end Place

/-- The characters of a text that are shown.  Once one is shown so are those behind it, whatever the place,
up to a control character; a character outside of ASCII ends the sequence. -/
def strip (place : Place) (isText : Bool) : List Char → List Char
  | [] => []
  | c :: rest =>
    if (if isText then Place.outside else place).shows c then
      c :: strip (if c.toNat < 128 then place else .outside) true rest
    else strip (place.next c) false rest

/-- A text without commands. -/
def ofText (text : String) : String := String.ofList (strip .outside false text.toList)

end TrigramGrep.Text.Plain
