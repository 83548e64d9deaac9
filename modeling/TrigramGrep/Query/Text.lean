import TrigramGrep.Query

/-!
# Queries as text

A query is written with its trigrams in double quotes, the parts of a conjunction side by side and
those of a disjunction between bars.  A disjunction directly inside a conjunction, and a conjunction
directly inside a disjunction, stands in parentheses; nothing else does.
-/

namespace TrigramGrep.Query

/-- A trigram in double quotes, its bytes in printable form. -/
def quoted (t : Trigram) : List Char :=
  '"' :: (Bytes.escape (Trigram.toBytes t) ++ ['"'])

/-- A text in parentheses, if it needs them. -/
def parenthesized (needed : Bool) (text : List Char) : List Char :=
  if needed then '(' :: (text ++ [')']) else text

/-- Whether a query is a conjunction. -/
def isAll : Query → Bool
  | .all _ => true
  | _ => false

/-- Whether a query is a disjunction. -/
def isAny : Query → Bool
  | .any _ => true
  | _ => false

mutual

/-- The characters of a query. -/
def chars : Query → List Char
  | .always => ['+']
  | .never => ['-']
  | .has t => quoted t
  | .all parts => charsAll parts
  | .any parts => charsAny parts

/-- The characters of the parts of a conjunction. -/
def charsAll : List Query → List Char
  | [] => []
  | [part] => parenthesized part.isAny (chars part)
  | part :: parts => parenthesized part.isAny (chars part) ++ ' ' :: charsAll parts

/-- The characters of the parts of a disjunction. -/
def charsAny : List Query → List Char
  | [] => []
  | [part] => parenthesized part.isAll (chars part)
  | part :: parts => parenthesized part.isAll (chars part) ++ ' ' :: '|' :: ' ' :: charsAny parts

end

/-- The text of a query. -/
def text (q : Query) : String :=
  String.ofList q.chars

end TrigramGrep.Query
