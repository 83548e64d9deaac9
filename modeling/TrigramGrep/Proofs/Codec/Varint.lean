import Mathlib.Algebra.Group.Nat.Defs
import TrigramGrep.Codec.Varint

/-!
# Reading back numbers of variable width

A numeral is a byte string in which all bytes but the last have the top bit (`IsNumeral`); their lower bits spell a
number, which may be of any size (`spelled`).  The reader takes a numeral of at most five bytes off the front of a byte
string, whatever follows it, and of the number that it spells it gives the lowest 32 bits (`decode?_eq_some_iff`).  The
bytes of a number are such a numeral and spell that number, so every number is read back.

The bits of a byte are put in by a bitwise "or".  What has been read so far lies below the place of the next bits, so
this is an addition, up to what falls off above bit 31 (`or_shiftLeft_eq`).
-/

namespace TrigramGrep.Codec.Varint

variable {bytes numeral rest : Bytes} {number value : UInt32} {shift used : Nat}

/-! ## Bytes -/

/-- A byte carries its seven lowest bits. -/
theorem toNat_and_low (byte : UInt8) : (byte &&& 0x7F).toNat = byte.toNat % 128 := by
  rw [UInt8.toNat_and]
  exact Nat.and_two_pow_sub_one_eq_mod byte.toNat 7

/-- A byte without the top bit ends a number. -/
theorem and_high_eq_zero_iff {byte : UInt8} : byte &&& 0x80 = 0 ↔ byte.toNat < 128 := by
  have hall : ∀ n : Fin 256, n.val &&& 128 = 0 ↔ n.val < 128 := by decide +kernel
  rw [← UInt8.toNat_inj, UInt8.toNat_and]
  exact hall ⟨byte.toNat, byte.toNat_lt⟩

/-- The top bit is put above the seven lowest ones. -/
theorem toNat_or_high (byte : UInt8) : (byte ||| 0x80).toNat = byte.toNat % 128 + 128 := by
  have hall : ∀ n : Fin 256, n.val ||| 128 = n.val % 128 + 128 := by decide +kernel
  rw [UInt8.toNat_or]
  exact hall ⟨byte.toNat, byte.toNat_lt⟩

/-! ## Numerals -/

/-- Bytes of one number: all but the last have the top bit. -/
def IsNumeral (bytes : Bytes) : Prop :=
  ∃ init last, bytes = init ++ [last] ∧ (∀ byte ∈ init, 128 ≤ byte.toNat) ∧ last.toNat < 128

/-- The number that bytes spell, seven bits a byte and least first, however large it is. -/
def spelled : Bytes → Nat
  | [] => 0
  | byte :: rest => byte.toNat % 128 + 128 * spelled rest

theorem isNumeral_singleton {byte : UInt8} (h : byte.toNat < 128) : IsNumeral [byte] :=
  ⟨[], byte, rfl, nofun, h⟩

theorem IsNumeral.cons {byte : UInt8} (hbyte : 128 ≤ byte.toNat) (h : IsNumeral numeral) :
    IsNumeral (byte :: numeral) := by
  obtain ⟨init, last, rfl, hinit, hlast⟩ := h
  exact ⟨byte :: init, last, rfl, List.forall_mem_cons.mpr ⟨hbyte, hinit⟩, hlast⟩

theorem spelled_lt (bytes : Bytes) : spelled bytes < 128 ^ bytes.length := by
  induction bytes with
  | nil => exact Nat.one_pos
  | cons byte bytes ih =>
    rw [spelled, List.length_cons, Nat.pow_succ]
    omega

/-- A byte string begins with a numeral, or no byte of it ends one. -/
theorem exists_numeral (bytes : Bytes) :
    (∃ numeral rest, bytes = numeral ++ rest ∧ IsNumeral numeral) ∨ ∀ byte ∈ bytes, 128 ≤ byte.toNat := by
  induction bytes with
  | nil => exact .inr nofun
  | cons byte bytes ih =>
    by_cases hbyte : byte.toNat < 128
    · exact .inl ⟨[byte], bytes, rfl, isNumeral_singleton hbyte⟩
    · have hbyte := Nat.le_of_not_lt hbyte
      rcases ih with ⟨numeral, rest, rfl, h⟩ | h
      · exact .inl ⟨byte :: numeral, rest, rfl, h.cons hbyte⟩
      · exact .inr (List.forall_mem_cons.mpr ⟨hbyte, h⟩)

/-! ## Reading -/

/-- Bits that come in above all bits so far are added; what is too high for 32 bits falls off. -/
theorem or_shiftLeft_eq {bits : UInt32} (hvalue : value.toNat < 2 ^ shift) (hshift : shift < 32) :
    value ||| bits <<< UInt32.ofNat shift = UInt32.ofNat (value.toNat + bits.toNat * 2 ^ shift) := by
  have hplace : (UInt32.ofNat shift).toNat % 32 = shift := by
    rw [UInt32.toNat_ofNat_of_lt' (Nat.lt_trans hshift (by decide)), Nat.mod_eq_of_lt hshift]
  -- the bits that are left form a multiple of the place
  have hkept : bits.toNat * 2 ^ shift % 2 ^ 32 = 2 ^ shift * (bits.toNat % 2 ^ (32 - shift)) := by
    rw [← Nat.mul_mod_mul_left, ← Nat.pow_add, Nat.add_sub_of_le (Nat.le_of_lt hshift), Nat.mul_comm]
  have hsum : (value ||| bits <<< UInt32.ofNat shift).toNat =
      value.toNat + bits.toNat * 2 ^ shift % 2 ^ 32 := by
    rw [UInt32.toNat_or, UInt32.toNat_shiftLeft, hplace, Nat.shiftLeft_eq, hkept, Nat.or_comm,
      ← Nat.two_pow_add_eq_or_of_lt hvalue, Nat.add_comm]
  refine UInt32.toNat_inj.mp ?_
  have hlt := (value ||| bits <<< UInt32.ofNat shift).toNat_lt
  rw [hsum] at hlt
  rw [UInt32.toNat_ofNat', hsum, ← Nat.mod_eq_of_lt hlt, Nat.add_mod_mod]

/-- Nothing is read that would start beyond bit 31. -/
theorem decodeFrom_of_le (h : 32 ≤ shift) : decodeFrom value shift used bytes = none := by
  cases bytes with
  | nil => rfl
  | cons byte bytes => rw [decodeFrom, if_pos h]

theorem decodeFrom_last {byte : UInt8} (hbyte : byte.toNat < 128) (hvalue : value.toNat < 2 ^ shift)
    (hshift : shift < 32) :
    decodeFrom value shift used (byte :: rest) =
      some (UInt32.ofNat (value.toNat + byte.toNat % 128 * 2 ^ shift), used + 1) := by
  rw [decodeFrom, if_neg (Nat.not_le_of_lt hshift), if_pos (and_high_eq_zero_iff.mpr hbyte),
    or_shiftLeft_eq hvalue hshift, UInt8.toNat_toUInt32, toNat_and_low]

theorem decodeFrom_continued {byte : UInt8} (hbyte : 128 ≤ byte.toNat) (hvalue : value.toNat < 2 ^ shift)
    (hshift : shift < 32) :
    decodeFrom value shift used (byte :: rest) =
      decodeFrom (UInt32.ofNat (value.toNat + byte.toNat % 128 * 2 ^ shift)) (shift + 7) (used + 1) rest := by
  rw [decodeFrom, if_neg (Nat.not_le_of_lt hshift),
    if_neg (mt and_high_eq_zero_iff.mp (Nat.not_lt_of_le hbyte)), or_shiftLeft_eq hvalue hshift,
    UInt8.toNat_toUInt32, toNat_and_low]

/-- Seven places further up, the bits so far are still below the place of the next ones. -/
theorem toNat_ofNat_add_lt (byte : UInt8) (hvalue : value.toNat < 2 ^ shift) :
    (UInt32.ofNat (value.toNat + byte.toNat % 128 * 2 ^ shift)).toNat < 2 ^ (shift + 7) := by
  have hpow : 2 ^ (shift + 7) = 128 * 2 ^ shift := by rw [Nat.pow_add, Nat.mul_comm]
  have hbits : byte.toNat % 128 * 2 ^ shift ≤ 127 * 2 ^ shift := Nat.mul_le_mul_right _ (by omega)
  rw [UInt32.toNat_ofNat']
  exact Nat.lt_of_le_of_lt (Nat.mod_le _ _) (by omega)

/-- The reader reads a numeral to its end and no further; `value` holds what lies below `shift`. -/
theorem decodeFrom_numeral_append {init : Bytes} {last : UInt8} (hinit : ∀ byte ∈ init, 128 ≤ byte.toNat)
    (hlast : last.toNat < 128) (hvalue : value.toNat < 2 ^ shift) :
    decodeFrom value shift used (init ++ last :: rest) =
      if shift + 7 * init.length < 32 then
        some (UInt32.ofNat (value.toNat + spelled (init ++ [last]) * 2 ^ shift), used + (init.length + 1))
      else none := by
  induction init generalizing value shift used with
  | nil =>
    by_cases hshift : shift < 32
    · exact (decodeFrom_last hlast hvalue hshift).trans (if_pos hshift).symm
    · exact (decodeFrom_of_le (Nat.le_of_not_lt hshift)).trans (if_neg hshift).symm
  | cons byte init ih =>
    obtain ⟨hbyte, hinit⟩ := List.forall_mem_cons.mp hinit
    rw [List.length_cons]
    by_cases hshift : shift < 32
    · have hsum : value.toNat + byte.toNat % 128 * 2 ^ shift + spelled (init ++ [last]) * 2 ^ (shift + 7) =
          value.toNat + spelled (byte :: init ++ [last]) * 2 ^ shift := by
        rw [List.cons_append, spelled, Nat.pow_add, Nat.add_assoc, Nat.add_mul, Nat.mul_comm (2 ^ shift),
          ← Nat.mul_assoc, Nat.mul_comm (spelled _)]
      have hplace : shift + 7 + 7 * init.length = shift + 7 * (init.length + 1) := by omega
      have hused : used + 1 + (init.length + 1) = used + (init.length + 1 + 1) := by omega
      rw [List.cons_append, decodeFrom_continued hbyte hvalue hshift, ih hinit (toNat_ofNat_add_lt byte hvalue),
        UInt32.ofNat_add, UInt32.ofNat_toNat, ← UInt32.ofNat_add, hsum, hplace, hused, List.cons_append]
    · rw [if_neg (by omega)]
      exact decodeFrom_of_le (Nat.le_of_not_lt hshift)

/-- Bytes that never end a number are not read. -/
theorem decodeFrom_eq_none (h : ∀ byte ∈ bytes, 128 ≤ byte.toNat) : decodeFrom value shift used bytes = none := by
  induction bytes generalizing value shift used with
  | nil => rfl
  | cons byte bytes ih =>
    obtain ⟨hbyte, hbytes⟩ := List.forall_mem_cons.mp h
    by_cases hshift : shift < 32
    · rw [decodeFrom, if_neg (Nat.not_le_of_lt hshift),
        if_neg (mt and_high_eq_zero_iff.mp (Nat.not_lt_of_le hbyte)), ih hbytes]
    · exact decodeFrom_of_le (Nat.le_of_not_lt hshift)

/-- Of a numeral of at most five bytes the lowest 32 bits are read, whatever follows it; a longer one is refused. -/
theorem decode?_numeral_append (h : IsNumeral numeral) (rest : Bytes) :
    decode? (numeral ++ rest) =
      if numeral.length ≤ 5 then some (UInt32.ofNat (spelled numeral), numeral.length) else none := by
  obtain ⟨init, last, rfl, hinit, hlast⟩ := h
  rw [decode?, List.append_assoc, List.singleton_append, decodeFrom_numeral_append hinit hlast Nat.one_pos]
  have hplace : 7 * init.length < 32 ↔ init.length + 1 ≤ 5 := by omega
  simp only [hplace, UInt32.toNat_zero, Nat.zero_add, Nat.pow_zero, Nat.mul_one, List.length_append,
    List.length_singleton]

/-- What is read off the front of a byte string: a numeral of at most five bytes, and the lowest 32 bits of what it
spells. -/
theorem decode?_eq_some_iff :
    decode? bytes = some (value, used) ↔
      ∃ numeral rest, bytes = numeral ++ rest ∧ IsNumeral numeral ∧ numeral.length ≤ 5 ∧
        value = UInt32.ofNat (spelled numeral) ∧ used = numeral.length := by
  constructor
  · intro h
    rcases exists_numeral bytes with ⟨numeral, rest, rfl, hnumeral⟩ | hbytes
    · rw [decode?_numeral_append hnumeral, Option.ite_none_right_eq_some, Option.some.injEq, Prod.mk.injEq] at h
      exact ⟨numeral, rest, rfl, hnumeral, h.1, h.2.1.symm, h.2.2.symm⟩
    · rw [decode?, decodeFrom_eq_none hbytes] at h
      cases h
  · rintro ⟨numeral, rest, rfl, hnumeral, hlength, rfl, rfl⟩
    rw [decode?_numeral_append hnumeral, if_pos hlength]

/-- A number takes no more bytes than there are. -/
theorem used_le (h : decode? bytes = some (value, used)) : used ≤ bytes.length := by
  obtain ⟨numeral, rest, rfl, -, -, -, rfl⟩ := decode?_eq_some_iff.mp h
  rw [List.length_append]
  omega

/-- What follows a number does not change how it is read. -/
theorem decode?_append (h : decode? bytes = some (value, used)) (extra : Bytes) :
    decode? (bytes ++ extra) = some (value, used) := by
  obtain ⟨numeral, rest, rfl, hnumeral, hlength, rfl, rfl⟩ := decode?_eq_some_iff.mp h
  rw [List.append_assoc, decode?_numeral_append hnumeral, if_pos hlength]

/-! ## Writing -/

theorem encode_of_lt (h : number.toNat < 128) : encode number = [number.toUInt8] := by
  rw [encode, if_pos (UInt32.lt_iff_toNat_lt.mpr h)]

theorem encode_of_le (h : 128 ≤ number.toNat) :
    encode number = (number.toUInt8 ||| 0x80) :: encode (number >>> 7) := by
  rw [encode, if_neg fun hlt => Nat.not_lt_of_le h (UInt32.lt_iff_toNat_lt.mp hlt)]

theorem toNat_shiftRight_seven (number : UInt32) : (number >>> 7).toNat = number.toNat / 128 := by
  simp [UInt32.toNat_shiftRight, Nat.shiftRight_eq_div_pow]

/-- Induction on a number seven bits at a time, as it is written. -/
@[elab_as_elim] theorem induction_bits {motive : UInt32 → Prop}
    (last : ∀ number : UInt32, number.toNat < 128 → motive number)
    (more : ∀ number : UInt32, 128 ≤ number.toNat → motive (number >>> 7) → motive number) (number : UInt32) :
    motive number := by
  induction number using encode.induct with
  | case1 number h => exact last number (UInt32.lt_iff_toNat_lt.mp h)
  | case2 number h ih => exact more number (Nat.le_of_not_lt fun hlt => h (UInt32.lt_iff_toNat_lt.mpr hlt)) ih

theorem isNumeral_encode (number : UInt32) : IsNumeral (encode number) := by
  induction number using induction_bits with
  | last number h =>
    rw [encode_of_lt h]
    exact isNumeral_singleton (by rw [UInt32.toNat_toUInt8]; omega)
  | more number h ih =>
    rw [encode_of_le h]
    exact ih.cons (by rw [toNat_or_high]; omega)

theorem spelled_encode (number : UInt32) : spelled (encode number) = number.toNat := by
  induction number using induction_bits with
  | last number h =>
    rw [encode_of_lt h, spelled, spelled, UInt32.toNat_toUInt8]
    omega
  | more number h ih =>
    rw [encode_of_le h, spelled, ih, toNat_or_high, UInt32.toNat_toUInt8, toNat_shiftRight_seven]
    omega

/-- A number of at most seven bits a byte fits in so many bytes. -/
theorem length_encode_le_of_lt {count : Nat} (h : number.toNat < 128 ^ (count + 1)) :
    (encode number).length ≤ count + 1 := by
  induction number using induction_bits generalizing count with
  | last number hlt =>
    rw [encode_of_lt hlt, List.length_singleton]
    omega
  | more number hle ih =>
    rw [encode_of_le hle, List.length_cons]
    cases count with
    | zero => omega
    | succ count =>
      refine Nat.succ_le_succ (ih ?_)
      rw [toNat_shiftRight_seven]
      exact Nat.div_lt_of_lt_mul (by rwa [Nat.mul_comm, ← Nat.pow_succ])

/-- A number is read back, and the reader says where it ends. -/
theorem decode?_encode_append (number : UInt32) (rest : Bytes) :
    decode? (encode number ++ rest) = some (number, (encode number).length) := by
  have hlength : (encode number).length ≤ 5 :=
    length_encode_le_of_lt (Nat.lt_trans number.toNat_lt (by decide))
  rw [decode?_numeral_append (isNumeral_encode number), if_pos hlength, spelled_encode, UInt32.ofNat_toNat]

/-- A number takes no more bytes than it has predecessors, and one. -/
theorem length_encode_le (number : UInt32) : (encode number).length ≤ number.toNat + 1 :=
  length_encode_le_of_lt (Nat.lt_trans (Nat.lt_succ_self _) (Nat.lt_pow_self (by decide)))

/-- Only the number zero has a byte that is zero. -/
theorem zero_notMem_encode {number : UInt32} (h : number ≠ 0) : 0 ∉ encode number := by
  induction number using induction_bits with
  | last number hlt =>
    rw [encode_of_lt hlt, List.mem_singleton]
    intro hzero
    have hnat : number.toNat % 256 = 0 := by rw [← UInt32.toNat_toUInt8, ← hzero]; rfl
    exact h (UInt32.toNat_inj.mp (show number.toNat = 0 by omega))
  | more number hle ih =>
    rw [encode_of_le hle, List.mem_cons, not_or]
    refine ⟨fun hzero => ?_, ih fun hnext => ?_⟩
    · have hhigh := toNat_or_high number.toUInt8
      rw [← hzero] at hhigh
      cases hhigh
    · have hnat := toNat_shiftRight_seven number
      rw [hnext, UInt32.toNat_zero] at hnat
      omega

theorem encode_ne_nil (number : UInt32) : encode number ≠ [] := by
  rw [encode]
  split <;> simp

end TrigramGrep.Codec.Varint
