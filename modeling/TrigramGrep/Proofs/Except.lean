import Mathlib.Logic.Basic

/-!
# Computations that may fail

A computation in two steps gives a value when the first step gives one from which the second one does.
-/

namespace TrigramGrep

variable {ε α β : Type} {x : Except ε α} {f : α → Except ε β}

theorem bind_eq_ok_iff {b : β} : x >>= f = .ok b ↔ ∃ a, x = .ok a ∧ f a = .ok b := by
  cases x with
  | error e => simp [bind, Except.bind]
  | ok a => simp [bind, Except.bind]

/-- A first step that gives a value, followed by one that gives a value whatever the first one was. -/
theorem bind_isOk (hx : ∃ a, x = .ok a) (hf : ∀ a, ∃ b, f a = .ok b) : ∃ b, x >>= f = .ok b := by
  obtain ⟨a, ha⟩ := hx
  obtain ⟨b, hb⟩ := hf a
  exact ⟨b, bind_eq_ok_iff.mpr ⟨a, ha, hb⟩⟩

end TrigramGrep
