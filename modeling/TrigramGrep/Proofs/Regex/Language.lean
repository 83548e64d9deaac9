import Mathlib.Computability.Language
import Mathlib.Order.CompletePartialOrder
import TrigramGrep.Regex.Basic

/-!
# The language of a regular expression

`Regex.language` is the set of byte strings that an expression stands for when conditions on positions
count as the empty text.  Parts in sequence are a product of languages, alternatives a sum, and a
repetition is the union of the powers from `min` to `max`.  A class of characters stands for the UTF-8
forms of its characters; code points that are no characters stand for nothing.
-/

namespace TrigramGrep

/-- The strings that the members of a class stand for. -/
def CharClass.language : CharClass → Language UInt8
  | .chars set => {w | ∃ c : Char, set.contains c.toNat = true ∧ w = String.utf8EncodeChar c}
  | .bytes set => {w | ∃ b : UInt8, set.contains b.toNat = true ∧ w = [b]}

namespace Regex

mutual

/-- The byte strings that an expression stands for. -/
def language : Regex → Language UInt8
  | .empty => 1
  | .look _ => 1
  | .literal bytes => {bytes}
  | .charClass set => set.language
  | .capture _ _ body => language body
  | .repeated min max _ body =>
    {w | ∃ n, min ≤ n ∧ (∀ m ∈ max, n ≤ m) ∧ w ∈ language body ^ n}
  | .concat parts => languageAll parts
  | .alternation parts => languageAny parts

/-- The byte strings that parts in sequence stand for. -/
def languageAll : List Regex → Language UInt8
  | [] => 1
  | part :: parts => language part * languageAll parts

/-- The byte strings that alternatives stand for. -/
def languageAny : List Regex → Language UInt8
  | [] => 0
  | part :: parts => language part + languageAny parts

end

theorem languageAll_eq_prod (parts : List Regex) :
    languageAll parts = (parts.map language).prod := by
  induction parts with
  | nil => rfl
  | cons part parts ih => rw [languageAll, ih, List.map_cons, List.prod_cons]

theorem languageAny_eq_sum (parts : List Regex) :
    languageAny parts = (parts.map language).sum := by
  induction parts with
  | nil => rfl
  | cons part parts ih => rw [languageAny, ih, List.map_cons, List.sum_cons]

end Regex

end TrigramGrep
