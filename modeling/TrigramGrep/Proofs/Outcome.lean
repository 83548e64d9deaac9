import Mathlib.Algebra.Group.Nat.Defs
import TrigramGrep.Bytes

/-!
# Computations that stop at a wrong step

On a machine a sum may leave its word, a range may reach beyond the end of its list, a shift may be too wide, and
room may be asked for that has no addresses.
The functions of this library reckon with plain numbers and cut ranges off, so nothing of this can be seen on
them.  Here each such step is one that stops the computation (`Outcome.trap`) when it goes wrong.  A function
written with these steps is safe if it never stops, that is, if it agrees with one that only knows answers and
faults.

## Shape of a proof of safety

Each step has a lemma that says when it goes well (`Outcome.sum_eq`, `Outcome.slice_eq` and so on).  With them a
guarded function is rewritten to its plain counterpart, and `Outcome.Agrees.bind` carries the agreement of two
computations from step to step.
-/

namespace TrigramGrep

/-- What goes wrong in a step. -/
inductive Trap where
  /-- A number leaves its word, or a difference falls below zero. -/
  | overflow
  /-- A place or a range lies outside of its list. -/
  | range
  /-- A word is shifted by its width or more. -/
  | shift
  /-- There are no addresses for so much room. -/
  | capacity
  deriving DecidableEq, Repr

/-- What comes of a computation that may find a fault and whose steps may go wrong. -/
inductive Outcome (ε α : Type) where
  | answer (value : α)
  | fault (error : ε)
  | trap (reason : Trap)
  deriving DecidableEq, Repr

namespace Outcome

variable {ε α β γ δ : Type}

/-- Goes on after an answer only. -/
def andThen (x : Outcome ε α) (f : α → Outcome ε β) : Outcome ε β :=
  match x with
  | .answer value => f value
  | .fault error => .fault error
  | .trap reason => .trap reason

instance : Monad (Outcome ε) where
  pure := .answer
  bind := andThen

@[simp] theorem answer_bind (value : α) (f : α → Outcome ε β) : (answer value >>= f) = f value := rfl

/-- An answer or a fault as the outcome of a computation without a wrong step; it is never a trap. -/
def ofExcept : Except ε α → Outcome ε α
  | .ok value => .answer value
  | .error error => .fault error

/-! ## Steps -/

/-- The sum of two numbers as a word of some bits. -/
def sum (bits a b : Nat) : Outcome ε { n // n = a + b } :=
  if a + b < 2 ^ bits then .answer ⟨a + b, rfl⟩ else .trap .overflow

/-- The product of two numbers as a word of some bits. -/
def product (bits a b : Nat) : Outcome ε { n // n = a * b } :=
  if a * b < 2 ^ bits then .answer ⟨a * b, rfl⟩ else .trap .overflow

/-- The difference of two numbers. -/
def difference (a b : Nat) : Outcome ε { n // n = a - b } :=
  if b ≤ a then .answer ⟨a - b, rfl⟩ else .trap .overflow

/-- A number put into a word of 32 bits. -/
def word (n : Nat) : Outcome ε UInt32 :=
  if n < 2 ^ 32 then .answer (UInt32.ofNat n) else .trap .overflow

/-- A word of 32 bits shifted to the left. -/
def shiftLeft (value : UInt32) (count : Nat) : Outcome ε UInt32 :=
  if count < 32 then .answer (value <<< UInt32.ofNat count) else .trap .shift

/-- The member of a list at a place. -/
def get (list : List α) (place : Nat) : Outcome ε α :=
  match list[place]? with
  | some value => .answer value
  | none => .trap .range

/-- The part of a list from one place up to another. -/
def slice (list : List α) (start stop : Nat) : Outcome ε (List α) :=
  if start ≤ stop ∧ stop ≤ list.length then .answer ((list.drop start).take (stop - start))
  else .trap .range

/-- Sets room aside for members of `size` bytes each. -/
def reserve (size count : Nat) : Outcome ε Unit :=
  if size * count < 2 ^ 63 then .answer () else .trap .capacity

theorem sum_eq {bits a b : Nat} (h : a + b < 2 ^ bits) :
    (sum bits a b : Outcome ε _) = .answer ⟨a + b, rfl⟩ := if_pos h

theorem product_eq {bits a b : Nat} (h : a * b < 2 ^ bits) :
    (product bits a b : Outcome ε _) = .answer ⟨a * b, rfl⟩ := if_pos h

theorem difference_eq {a b : Nat} (h : b ≤ a) :
    (difference a b : Outcome ε _) = .answer ⟨a - b, rfl⟩ := if_pos h

theorem word_eq {n : Nat} (h : n < 2 ^ 32) : (word n : Outcome ε UInt32) = .answer (UInt32.ofNat n) := if_pos h

theorem shiftLeft_eq {value : UInt32} {count : Nat} (h : count < 32) :
    (shiftLeft value count : Outcome ε _) = .answer (value <<< UInt32.ofNat count) := if_pos h

theorem get_eq {list : List α} {place : Nat} (h : place < list.length) :
    (get list place : Outcome ε α) = .answer list[place] := by
  rw [get, List.getElem?_eq_getElem h]

theorem slice_eq {list : List α} {start stop : Nat} (hstart : start ≤ stop) (hstop : stop ≤ list.length) :
    (slice list start stop : Outcome ε _) = .answer ((list.drop start).take (stop - start)) :=
  if_pos ⟨hstart, hstop⟩

theorem reserve_eq {size count : Nat} (h : size * count < 2 ^ 63) :
    (reserve size count : Outcome ε Unit) = .answer () := if_pos h

/-- The part of a list from a place up to its end. -/
theorem slice_length {list : List α} {start : Nat} (h : start ≤ list.length) :
    (slice list start list.length : Outcome ε _) = .answer (list.drop start) := by
  rw [slice_eq h (Nat.le_refl _), List.take_of_length_le (Nat.le_of_eq List.length_drop)]

/-! ## Agreement -/

/-- A computation makes no wrong step, finds the fault that another one finds, and its answer stands in a relation to
the answer of the other. -/
def Agrees (R : α → β → Prop) : Outcome ε α → Except ε β → Prop
  | .answer a, .ok b => R a b
  | .fault e, .error e' => e = e'
  | _, _ => False

variable {R : α → β → Prop} {S : γ → δ → Prop} {x : Outcome ε α} {y : Except ε β}

/-- Where the other computation has an answer, there is a related one. -/
theorem agrees_ok_iff {b : β} : Agrees R x (.ok b) ↔ ∃ a, x = .answer a ∧ R a b := by
  cases x <;> simp [Agrees]

/-- Where the other computation has a fault, there is the same one. -/
theorem agrees_error_iff {e : ε} : Agrees R x (.error e) ↔ x = .fault e := by
  cases x <;> simp [Agrees]

/-- Computations agree if their first steps do and all that follows from related answers. -/
theorem Agrees.bind (h : Agrees R x y) {f : α → Outcome ε γ} {g : β → Except ε δ}
    (hnext : ∀ a b, R a b → y = .ok b → Agrees S (f a) (g b)) : Agrees S (x >>= f) (y >>= g) := by
  cases x with
  | answer a =>
    cases y with
    | ok b => exact hnext a b h rfl
    | error e => exact h.elim
  | fault e =>
    cases y with
    | ok b => exact h.elim
    | error e' => exact h
  | trap reason => cases y <;> exact h.elim

/-- A computation in two steps is safe if its first step is and what follows from an answer. -/
theorem ofExcept_bind {x : Except ε α} {f : α → Outcome ε β} {g : α → Except ε β}
    (h : ∀ a, x = .ok a → f a = ofExcept (g a)) : ofExcept x >>= f = ofExcept (x >>= g) := by
  cases x with
  | ok a => exact h a rfl
  | error e => rfl

end Outcome

end TrigramGrep
