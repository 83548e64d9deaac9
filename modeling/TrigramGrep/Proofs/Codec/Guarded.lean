import TrigramGrep.Codec.Gaps
import TrigramGrep.Proofs.Codec.Gaps
import TrigramGrep.Proofs.Codec.Varint
import TrigramGrep.Proofs.Outcome

/-!
# Numbers are read and written without a wrong step

The readers of variable-length numbers and of gaps once more, with each step that a machine could get wrong as
a step that may stop (`Varint.guardedFrom`, `Gaps.guardedFrom`).  On bytes that fit in memory none of them does,
and they read what the plain readers read.

The reader of gaps keeps its position in the bytes, so it relies on a number never taking more bytes than there
are (`Varint.used_le`).

The writer of gaps subtracts each number from the next one and takes one more away (`Gaps.guardedGap`), so it relies
on the numbers ascending strictly.
-/

namespace TrigramGrep.Codec

variable {ε : Type}

namespace Varint

/-- The reader of a number, step by step: the place of the next bits is a word of 31 bits, the number of bytes one
of 64. -/
def guardedFrom (value : UInt32) (shift used : Nat) : Bytes → Outcome ε (Option (UInt32 × Nat))
  | [] => .answer none
  | byte :: rest =>
    if 32 ≤ shift then .answer none
    else do
      let bits ← Outcome.shiftLeft (byte &&& 0x7F).toUInt32 shift
      let ⟨used, _⟩ ← Outcome.sum 64 used 1
      if byte &&& 0x80 = 0 then .answer (some (value ||| bits, used))
      else
        let ⟨shift, _⟩ ← Outcome.sum 31 shift 7
        guardedFrom (value ||| bits) shift used rest

/-- The number at the front of a byte string, step by step. -/
def guarded (bytes : Bytes) : Outcome ε (Option (UInt32 × Nat)) :=
  guardedFrom 0 0 0 bytes

theorem guardedFrom_eq {value : UInt32} {shift used : Nat} {bytes : Bytes}
    (h : used + bytes.length < 2 ^ 64) :
    (guardedFrom value shift used bytes : Outcome ε _) = .answer (decodeFrom value shift used bytes) := by
  induction bytes generalizing value shift used with
  | nil => rfl
  | cons byte rest ih =>
    rw [List.length_cons] at h
    rw [guardedFrom, decodeFrom]
    by_cases hshift : 32 ≤ shift
    · rw [if_pos hshift, if_pos hshift]
    · rw [if_neg hshift, if_neg hshift, Outcome.shiftLeft_eq (Nat.lt_of_not_le hshift),
        Outcome.answer_bind, Outcome.sum_eq (by omega), Outcome.answer_bind]
      dsimp only
      split
      · rfl
      · rw [Outcome.sum_eq (by omega), Outcome.answer_bind]
        exact ih (by omega)

/-- The reader of a number makes no wrong step. -/
theorem guarded_eq {bytes : Bytes} (h : bytes.length < 2 ^ 64) :
    (guarded bytes : Outcome ε _) = .answer (decode? bytes) :=
  guardedFrom_eq (by omega)

end Varint

namespace Gaps

/-- The reader of gaps, step by step: it keeps its position in the bytes. -/
def guardedFrom (bytes : Bytes) (before : Option UInt32) :
    (count position : Nat) → Outcome ε (Option (List UInt32))
  | 0, position => .answer (if position = bytes.length then some [] else none)
  | count + 1, position => do
    let rest ← Outcome.slice bytes position bytes.length
    match ← Varint.guarded rest with
    | none => .answer none
    | some (gap, used) =>
      match step before gap with
      | none => .answer none
      | some value =>
        let ⟨position, _⟩ ← Outcome.sum 64 position used
        match ← guardedFrom bytes (some value) count position with
        | none => .answer none
        | some values => .answer (some (value :: values))

/-- Exactly `count` numbers from bytes, step by step: the room for them is set aside first. -/
def guarded (bytes : Bytes) (count : Nat) : Outcome ε (Option (List UInt32)) := do
  Outcome.reserve 4 count
  guardedFrom bytes none count 0

theorem guardedFrom_eq {bytes : Bytes} (h : bytes.length < 2 ^ 64) (before : Option UInt32) {count position : Nat}
    (hposition : position ≤ bytes.length) :
    (guardedFrom bytes before count position : Outcome ε _) =
      .answer (decodeAfter before count (bytes.drop position)) := by
  induction count generalizing before position with
  | zero =>
    have hend : (bytes.drop position).isEmpty = true ↔ position = bytes.length := by
      rw [List.isEmpty_iff, List.drop_eq_nil_iff]
      omega
    simp only [guardedFrom, decodeAfter, hend]
  | succ count ih =>
    have hrest : (bytes.drop position).length = bytes.length - position := List.length_drop
    rw [guardedFrom, Outcome.slice_length hposition, Outcome.answer_bind, Varint.guarded_eq (by omega),
      Outcome.answer_bind, decodeAfter]
    cases hgap : Varint.decode? (bytes.drop position) with
    | none => rfl
    | some found =>
      obtain ⟨gap, used⟩ := found
      have hused := Varint.used_le hgap
      dsimp only
      cases hstep : step before gap with
      | none => simp [hstep]
      | some value =>
        dsimp only
        rw [Outcome.sum_eq (by omega), Outcome.answer_bind]
        dsimp only
        rw [ih (some value) (by omega), Outcome.answer_bind, ← List.drop_drop]
        simp only [Option.bind_eq_bind, Option.bind_some, hstep]
        cases decodeAfter (some value) count ((bytes.drop position).drop used) <;> rfl

/-- The reader of gaps makes no wrong step, as long as there are addresses for the numbers. -/
theorem guarded_eq {bytes : Bytes} (h : bytes.length < 2 ^ 64) {count : Nat} (hcount : count ≤ maxCount) :
    (guarded bytes count : Outcome ε _) = .answer (decode? bytes count) := by
  rw [maxCount] at hcount
  rw [guarded, Outcome.reserve_eq (by omega), Outcome.answer_bind]
  exact guardedFrom_eq h none (Nat.zero_le _)

/-! ## Writing -/

/-- The gap that leads to a number, step by step. -/
def guardedGap (before : Option UInt32) (value : UInt32) : Outcome ε UInt32 :=
  match before with
  | none => .answer value
  | some p => do
    let ⟨difference, _⟩ ← Outcome.difference value.toNat p.toNat
    let ⟨skipped, _⟩ ← Outcome.difference difference 1
    .answer (UInt32.ofNat skipped)

/-- The bytes of a list that follows the number `before`, step by step. -/
def guardedEncodeAfter (before : Option UInt32) : List UInt32 → Outcome ε Bytes
  | [] => .answer []
  | value :: rest => do
    let gap ← guardedGap before value
    let bytes ← guardedEncodeAfter (some value) rest
    .answer (Varint.encode gap ++ bytes)

/-- The bytes of a list, step by step. -/
def guardedEncode (values : List UInt32) : Outcome ε Bytes :=
  guardedEncodeAfter none values

theorem guardedGap_eq {before : Option UInt32} {value : UInt32} (h : ∀ p ∈ before, p < value) :
    (guardedGap before value : Outcome ε _) = .answer (gap before value) := by
  cases before with
  | none => rfl
  | some p =>
    have hlt := h p rfl
    have hnat := UInt32.lt_iff_toNat_lt.mp hlt
    rw [guardedGap, Outcome.difference_eq (by omega), Outcome.answer_bind]
    dsimp only
    rw [Outcome.difference_eq (by omega), Outcome.answer_bind]
    dsimp only
    rw [← toNat_gap_some hlt, UInt32.ofNat_toNat]

theorem guardedEncodeAfter_eq (before : Option UInt32) {values : List UInt32}
    (h : (before.toList ++ values).Pairwise (· < ·)) :
    (guardedEncodeAfter before values : Outcome ε _) = .answer (encodeAfter before values) := by
  induction values generalizing before with
  | nil => rfl
  | cons value values ih =>
    have hbefore : ∀ p ∈ before, p < value := by
      rintro p rfl
      exact List.rel_of_pairwise_cons h List.mem_cons_self
    have hvalues : (value :: values).Pairwise (· < ·) := h.sublist (List.sublist_append_right _ _)
    rw [guardedEncodeAfter, guardedGap_eq hbefore, Outcome.answer_bind, ih (some value) hvalues, Outcome.answer_bind,
      encodeAfter]

/-- The writer of gaps makes no wrong step on a list that ascends. -/
theorem guardedEncode_eq {values : List UInt32} (h : values.Pairwise (· < ·)) :
    (guardedEncode values : Outcome ε _) = .answer (encode values) :=
  guardedEncodeAfter_eq none h

end Gaps

end TrigramGrep.Codec
