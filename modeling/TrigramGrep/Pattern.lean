import TrigramGrep.Grep
import TrigramGrep.Pattern.Meaning
import TrigramGrep.Pattern.Reading
import TrigramGrep.Regex.Opening
import TrigramGrep.Regex.Room
import TrigramGrep.Regex.Search
import TrigramGrep.Text.Quoted

/-!
# Patterns

A pattern is a text together with the regular expression that it means.  Anchors always go by lines.
A text is refused when it has a fault or when its expression would take too much room.  An expression that
stands for plain texts alone takes none.
-/

namespace TrigramGrep

/-- A pattern that can be searched for. -/
structure Pattern where
  /-- The pattern as it was given. -/
  text : String
  /-- The expression that it means. -/
  regex : Regex
  /-- The program of that expression. -/
  program : Program := .ofRegex regex
  program_eq : program = .ofRegex regex := by rfl

namespace Pattern

/-- Why a text is no pattern. -/
inductive Refusal where
  /-- The text cannot be read. -/
  | faulty (text : String) (fault : Fault)
  /-- The expression that the text means takes too much room. -/
  | tooLarge (text : String)
  deriving DecidableEq, Repr

/-- A refusal in words: the text, and what is wrong with it. -/
def Refusal.message : Refusal → String
  | .faulty text fault =>
    "invalid pattern " ++ Text.Quoted.quoted text ++ ": " ++ fault.message text
  | .tooLarge text =>
    "invalid pattern " ++ Text.Quoted.quoted text ++ ": Compiled regex exceeds size limit of " ++
      toString Room.limit ++ " bytes."

/-- The pattern that a text is, with or without regard for case. -/
def ofText (ignoreCase : Bool) (text : String) : Except Refusal Pattern :=
  match Node.ofText text >>= Node.toRegex ignoreCase with
  | .error fault => .error (.faulty text fault)
  | .ok regex =>
    if regex.hasRoom || regex.isTextSearch then .ok { text, regex } else .error (.tooLarge text)

/-- Finds the matches of a pattern. -/
def matcher (pattern : Pattern) : Matcher := pattern.program.find

end Pattern

end TrigramGrep
