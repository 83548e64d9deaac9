import TrigramGrep.Regex.Basic

/-!
# Expressions that are tied to an edge of the text

Every match of some expressions has to begin at the beginning of the text, or to end at its end, because
they ask for it in front of, or behind, all that takes bytes.
-/

namespace TrigramGrep.Regex

mutual

/-- Whether every match of an expression has to begin at the beginning of the text. -/
def isTiedToStart : Regex → Bool
  | .look condition => condition = .lineStart .whole
  | .capture _ _ body => isTiedToStart body
  | .repeated min _ _ body => min ≠ 0 && isTiedToStart body
  | .concat parts => isAnyTiedToStart parts
  | .alternation parts => !parts.isEmpty && isEachTiedToStart parts
  | _ => false

/-- Whether one of several expressions that stand in a row is tied to the start, and those before it take
no bytes. -/
def isAnyTiedToStart : List Regex → Bool
  | [] => false
  | part :: parts =>
    isTiedToStart part || part.maxLength = some 0 && isAnyTiedToStart parts

/-- Whether each of several expressions is tied to the start. -/
def isEachTiedToStart : List Regex → Bool
  | [] => true
  | part :: parts => isTiedToStart part && isEachTiedToStart parts

end

mutual

/-- Whether every match of an expression has to end at the end of the text. -/
def isTiedToStop : Regex → Bool
  | .look condition => condition = .lineStop .whole
  | .capture _ _ body => isTiedToStop body
  | .repeated min _ _ body => min ≠ 0 && isTiedToStop body
  | .concat parts => (isAnyTiedToStop parts).1
  | .alternation parts => !parts.isEmpty && isEachTiedToStop parts
  | _ => false

/-- Whether one of several expressions that stand in a row is tied to the end, and those behind it take no
bytes; also whether none of them takes any. -/
def isAnyTiedToStop : List Regex → Bool × Bool
  | [] => (false, true)
  | part :: parts =>
    let (tied, idle) := isAnyTiedToStop parts
    (tied || idle && isTiedToStop part, idle && part.maxLength = some 0)

/-- Whether each of several expressions is tied to the end. -/
def isEachTiedToStop : List Regex → Bool
  | [] => true
  | part :: parts => isTiedToStop part && isEachTiedToStop parts

end

end TrigramGrep.Regex
