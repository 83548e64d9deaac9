import Mathlib.Algebra.BigOperators.Intervals
import Mathlib.Algebra.BigOperators.Ring.Finset
import Mathlib.Data.List.GetD
import TrigramGrep.Proofs.Codec.Gaps

/-!
# Numbers that are too large

A numeral can spell a number of more than 32 bits.  The reader looks at the place of a byte's bits only, so a numeral of
six bytes or more is refused, and one of four bytes spells 28 bits.  In between, the fifth byte starts at bit 28 and has
room for four bits; if it carries more, these fall off and what is left is read as the number
(`Varint.IsNumeral.spelled_lt_two_pow_iff`).

An ascending list inherits this.  Whatever its gaps spell, the numbers read are those that the gaps, each cut to 32
bits, lead to (`Gaps.follow_isPrefix`), so a number that leaves 32 bits is refused as long as no gap has been cut.
-/

namespace TrigramGrep.Codec

namespace Varint

variable {bytes numeral : Bytes}

/-- What bytes spell is a sum over them, whatever follows them. -/
theorem sum_getD_append (bytes rest : Bytes) :
    ∑ i ∈ Finset.range bytes.length, ((bytes ++ rest).getD i 0).toNat % 128 * 128 ^ i = spelled bytes := by
  induction bytes with
  | nil => rfl
  | cons byte bytes ih =>
    rw [spelled, ← ih, List.length_cons, Finset.sum_range_succ', Finset.mul_sum, Nat.add_comm]
    simp only [List.cons_append, List.getD_cons_zero, List.getD_cons_succ, Nat.pow_zero, Nat.mul_one, Nat.pow_succ,
      Nat.mul_comm 128, Nat.mul_assoc]

/-- The bytes of a numeral one by one, whatever follows them. -/
theorem IsNumeral.getD_append (h : IsNumeral numeral) (rest : Bytes) :
    (∀ i < numeral.length - 1, 128 ≤ ((numeral ++ rest).getD i 0).toNat) ∧
      ((numeral ++ rest).getD (numeral.length - 1) 0).toNat < 128 := by
  obtain ⟨init, last, rfl, hinit, hlast⟩ := h
  have hlength : (init ++ [last]).length - 1 = init.length := by simp
  rw [hlength, List.append_assoc]
  refine ⟨fun i hi => ?_, ?_⟩
  · rw [List.getD_append _ _ _ _ hi, List.getD_eq_getElem _ _ hi]
    exact hinit _ (List.getElem_mem hi)
  · rwa [List.getD_append_right _ _ _ _ (Nat.le_refl _), Nat.sub_self]

theorem IsNumeral.length_pos (h : IsNumeral numeral) : 0 < numeral.length := by
  obtain ⟨init, last, rfl, -, -⟩ := h
  rw [List.length_append]
  exact Nat.succ_pos _

theorem spelled_lt_of_length_lt (h : numeral.length < 5) : spelled numeral < 2 ^ 32 := by
  have hlt : spelled numeral < 128 ^ 4 :=
    Nat.lt_of_lt_of_le (spelled_lt numeral) (Nat.pow_le_pow_right (by decide) (Nat.le_of_lt_succ h))
  exact Nat.lt_trans hlt (by decide)

/-- Of the numerals that are read only those of five bytes can spell more than 32 bits, and the fifth byte tells. -/
theorem IsNumeral.spelled_lt_two_pow_iff (h : IsNumeral numeral) (hlength : numeral.length ≤ 5) (rest : Bytes) :
    spelled numeral < 2 ^ 32 ↔ ¬(numeral.length = 5 ∧ 16 ≤ ((numeral ++ rest).getD 4 0).toNat) := by
  rcases Nat.lt_or_eq_of_le hlength with hlt | hfive
  · exact iff_of_true (spelled_lt_of_length_lt hlt) fun hboth => Nat.ne_of_lt hlt hboth.1
  · obtain ⟨a, b, c, d, e, rfl⟩ : ∃ a b c d e, numeral = [a, b, c, d, e] := by
      match numeral, hfive with
      | [a, b, c, d, e], _ => exact ⟨a, b, c, d, e, rfl⟩
    have hlast : e.toNat < 128 := (h.getD_append rest).2
    simp only [spelled, List.cons_append, List.getD_cons_succ, List.getD_cons_zero, hfive, true_and]
    omega

/-- Nothing falls off a numeral of at most five bytes, unless it has just five. -/
theorem spelled_lt_of_five (hlength : numeral.length ≤ 5) (hfive : numeral.length = 5 → spelled numeral < 2 ^ 32) :
    spelled numeral < 2 ^ 32 :=
  (Nat.lt_or_eq_of_le hlength).elim spelled_lt_of_length_lt hfive

end Varint

namespace Gaps

variable {before : Option UInt32} {numerals : List Bytes} {rest : Bytes} {values : List UInt32} {count : Nat}

/-- The numbers that gaps lead to, however large they get. -/
def follow (before : Option Nat) : List Nat → List Nat
  | [] => []
  | gap :: gaps =>
    let value := before.elim gap fun p => p + gap + 1
    value :: follow (some value) gaps

/-- A step leads where the gap says. -/
theorem toNat_of_step {gap value : UInt32} (h : step before gap = some value) :
    value.toNat = (before.map UInt32.toNat).elim gap.toNat fun p => p + gap.toNat + 1 := by
  cases before with
  | none => cases h; rfl
  | some before => exact (step_some_eq_some_iff.mp h).symm

/-- The numbers read start with those that the numerals at the front lead to, each numeral cut to 32 bits. -/
theorem follow_isPrefix (hnumerals : ∀ numeral ∈ numerals, Varint.IsNumeral numeral)
    (h : decodeAfter before (numerals.length + count) (numerals.flatten ++ rest) = some values) :
    (∀ numeral ∈ numerals, numeral.length ≤ 5) ∧
      follow (before.map UInt32.toNat) (numerals.map fun numeral => Varint.spelled numeral % 2 ^ 32) <+:
        values.map UInt32.toNat := by
  induction numerals generalizing before values with
  | nil => exact ⟨nofun, List.nil_prefix⟩
  | cons numeral numerals ih =>
    obtain ⟨hnumeral, hnumerals⟩ := List.forall_mem_cons.mp hnumerals
    rw [List.length_cons, Nat.succ_add, List.flatten_cons, List.append_assoc] at h
    obtain ⟨gap, used, value, others, hgap, hvalue, hothers, rfl⟩ := decodeAfter_succ_eq_some_iff.mp h
    rw [Varint.decode?_numeral_append hnumeral, Option.ite_none_right_eq_some, Option.some.injEq, Prod.mk.injEq] at hgap
    obtain ⟨hlength, rfl, rfl⟩ := hgap
    rw [List.drop_left] at hothers
    obtain ⟨hlengths, hfollow⟩ := ih hnumerals hothers
    refine ⟨List.forall_mem_cons.mpr ⟨hlength, hlengths⟩, ?_⟩
    have hstep := toNat_of_step hvalue
    rw [UInt32.toNat_ofNat'] at hstep
    rw [List.map_cons, List.map_cons, follow, ← hstep]
    exact List.cons_prefix_cons.mpr ⟨rfl, hfollow⟩

end Gaps

/-! ## What is refused and what is cut -/

section

open Varint

/-- From any bytes a number is read as they spell it, unless the fifth byte has bits for which there is no room: then
it is cut to 32 bits.  All other numerals of more than 32 bits are refused, and so is a list of any count for which
there are addresses, however it goes on, in which a number leaves 32 bits while every gap up to it is read as it is
spelled. -/
theorem exact_unless_fifth_byte (bytes : Bytes) (count : Nat) :
    (∀ value used, decode? bytes = some (value, used) →
      0 < used ∧ used ≤ bytes.length ∧
        (∀ i < used - 1, 128 ≤ (bytes.getD i 0).toNat) ∧ (bytes.getD (used - 1) 0).toNat < 128 ∧
        value.toNat = (∑ i ∈ Finset.range used, (bytes.getD i 0).toNat % 128 * 128 ^ i) % 2 ^ 32 ∧
        (value.toNat = ∑ i ∈ Finset.range used, (bytes.getD i 0).toNat % 128 * 128 ^ i ↔
          ¬(used = 5 ∧ 16 ≤ (bytes.getD 4 0).toNat))) ∧
      (∀ numeral, numeral <+: bytes → IsNumeral numeral → 2 ^ 32 ≤ spelled numeral → numeral.length ≠ 5 →
        decode? bytes = none) ∧
      (count ≤ Gaps.maxCount →
        ∀ numerals : List Bytes, numerals.flatten <+: bytes → numerals.length ≤ count →
          (∀ numeral ∈ numerals, IsNumeral numeral ∧ (numeral.length = 5 → spelled numeral < 2 ^ 32)) →
            (∃ id ∈ Gaps.follow none (numerals.map spelled), 2 ^ 32 ≤ id) →
              Gaps.decode bytes count = .ok none) := by
  refine ⟨fun value used h => ?_, ?_, ?_⟩
  · obtain ⟨numeral, rest, rfl, hnumeral, hlength, rfl, rfl⟩ := decode?_eq_some_iff.mp h
    obtain ⟨hinit, hlast⟩ := hnumeral.getD_append rest
    rw [sum_getD_append, ← hnumeral.spelled_lt_two_pow_iff hlength, UInt32.toNat_ofNat', List.length_append]
    exact ⟨hnumeral.length_pos, by omega, hinit, hlast, rfl, by omega⟩
  · rintro numeral ⟨rest, rfl⟩ hnumeral hspelled hne
    have hlong : ¬numeral.length ≤ 5 := fun hle =>
      Nat.not_lt_of_le hspelled (spelled_lt_of_five hle fun hfive => absurd hfive hne)
    rw [decode?_numeral_append hnumeral, if_neg hlong]
  · rintro hroom numerals ⟨rest, rfl⟩ hcount hnumerals ⟨id, hmem, hid⟩
    rw [Gaps.decode_of_le hroom]
    obtain ⟨more, rfl⟩ := Nat.exists_eq_add_of_le hcount
    refine congrArg Except.ok (Option.eq_none_iff_forall_ne_some.mpr fun values h => ?_)
    obtain ⟨hlengths, hread⟩ := Gaps.follow_isPrefix (fun numeral hnumeral => (hnumerals numeral hnumeral).1) h
    -- no numeral has been cut
    have hspelled : (numerals.map fun numeral => spelled numeral % 2 ^ 32) = numerals.map spelled :=
      List.map_congr_left fun numeral hnumeral =>
        Nat.mod_eq_of_lt (spelled_lt_of_five (hlengths numeral hnumeral) (hnumerals numeral hnumeral).2)
    rw [hspelled] at hread
    obtain ⟨value, -, rfl⟩ := List.mem_map.mp (hread.subset hmem)
    exact Nat.not_le_of_lt value.toNat_lt hid

/-- The largest number is read; a power of two that takes six bytes is refused, and so is a list that goes on behind
the largest number. -/
theorem exact_unless_fifth_byte_largest :
    (0xFFFFFFFF : UInt32).toNat =
        ∑ i ∈ Finset.range 5, (([0xFF, 0xFF, 0xFF, 0xFF, 0x0F] : Bytes).getD i 0).toNat % 128 * 128 ^ i ∧
      decode? [0x80, 0x80, 0x80, 0x80, 0x80, 0x01] = none ∧
      Gaps.decode [0xFF, 0xFF, 0xFF, 0xFF, 0x0F, 0x00] 2 = .ok none := by
  have hread := (exact_unless_fifth_byte [0xFF, 0xFF, 0xFF, 0xFF, 0x0F] 0).1
  have hlong := (exact_unless_fifth_byte [0x80, 0x80, 0x80, 0x80, 0x80, 0x01] 0).2.1
  have hlist := (exact_unless_fifth_byte [0xFF, 0xFF, 0xFF, 0xFF, 0x0F, 0x00] 2).2.2 (by decide)
  have hlargest : IsNumeral [0xFF, 0xFF, 0xFF, 0xFF, 0x0F] :=
    ⟨[0xFF, 0xFF, 0xFF, 0xFF], 0x0F, rfl, by simp, by decide⟩
  have hsix : IsNumeral [0x80, 0x80, 0x80, 0x80, 0x80, 0x01] :=
    ⟨[0x80, 0x80, 0x80, 0x80, 0x80], 0x01, rfl, by simp, by decide⟩
  refine ⟨?_, hlong _ List.prefix_rfl hsix (by decide) (by decide), ?_⟩
  · exact (hread 0xFFFFFFFF 5 (by decide)).2.2.2.2.2.mpr (by decide)
  · refine hlist [[0xFF, 0xFF, 0xFF, 0xFF, 0x0F], [0x00]] List.prefix_rfl (Nat.le_refl _) ?_
      ⟨2 ^ 32, by decide, Nat.le_refl _⟩
    exact List.forall_mem_cons.mpr ⟨⟨hlargest, by decide⟩, List.forall_mem_singleton.mpr
      ⟨isNumeral_singleton (by decide), by decide⟩⟩

/-- The fifth byte of 2³² carries a bit for which there is no room: zero is read, alone and as the first number of a
list. -/
theorem fifth_byte_cut :
    ∑ i ∈ Finset.range 5, (([0x80, 0x80, 0x80, 0x80, 0x10] : Bytes).getD i 0).toNat % 128 * 128 ^ i = 2 ^ 32 ∧
      decode? [0x80, 0x80, 0x80, 0x80, 0x10] = some (0, 5) ∧
      Gaps.decode [0x80, 0x80, 0x80, 0x80, 0x10] 1 = .ok (some [0]) := by
  decide

end

end TrigramGrep.Codec
