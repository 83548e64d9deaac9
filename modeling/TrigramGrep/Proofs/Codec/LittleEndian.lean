import Mathlib.Algebra.Group.Nat.Defs
import TrigramGrep.Codec.LittleEndian

/-!
# Reading back numbers of fixed width

A number is read back from its place in a longer text.  What stands in front of the place only shifts it,
and what stands behind is not looked at.
-/

namespace TrigramGrep.Codec.LittleEndian

@[simp] theorem length_encode (width n : Nat) : (encode width n).length = width := by
  induction width generalizing n with
  | zero => rfl
  | succ width ih => rw [encode, List.length_cons, ih]

@[simp] theorem length_encode32 (n : UInt32) : (encode32 n).length = 4 := length_encode 4 _

@[simp] theorem length_encode64 (n : UInt64) : (encode64 n).length = 8 := length_encode 8 _

/-- A number comes back as far as it fits. -/
theorem decode_encode (width n : Nat) : decode (encode width n) = n % 256 ^ width := by
  induction width generalizing n with
  | zero => simp [encode, decode, Nat.mod_one]
  | succ width ih =>
    rw [encode, decode, ih, UInt8.toNat_ofNat', Nat.pow_succ (n := 256), Nat.mul_comm (256 ^ width),
      Nat.mod_mul]

/-- The bytes of a number one by one. -/
theorem getElem?_encode {width i : Nat} (h : i < width) (n : Nat) :
    (encode width n)[i]? = some (UInt8.ofNat (n / 256 ^ i)) := by
  induction width generalizing i n with
  | zero => exact absurd h (Nat.not_lt_zero i)
  | succ width ih =>
    rw [encode]
    cases i with
    | zero => simp
    | succ i => rw [List.getElem?_cons_succ, ih (Nat.lt_of_succ_lt_succ h), Nat.div_div_eq_div_mul, Nat.pow_succ']

/-- Bytes are those of the number that they spell. -/
theorem encode_decode (bytes : Bytes) : encode bytes.length (decode bytes) = bytes := by
  induction bytes with
  | nil => rfl
  | cons byte bytes ih =>
    have hbyte := byte.toNat_lt
    have hlow : UInt8.ofNat (byte.toNat + 256 * decode bytes) = byte := by
      refine UInt8.toNat_inj.mp ?_
      rw [UInt8.toNat_ofNat']
      omega
    have hhigh : (byte.toNat + 256 * decode bytes) / 256 = decode bytes := by omega
    rw [List.length_cons, decode, encode, hlow, hhigh, ih]

theorem decode_lt (bytes : Bytes) : decode bytes < 256 ^ bytes.length := by
  induction bytes with
  | nil => exact Nat.one_pos
  | cons byte bytes ih =>
    have hbyte := byte.toNat_lt
    rw [decode, List.length_cons, Nat.pow_succ]
    omega

/-! ## Places -/

theorem slice?_append {before text : Bytes} {position : Nat} (h : before.length ≤ position)
    (width : Nat) :
    slice? (before ++ text) position width = slice? text (position - before.length) width := by
  rw [slice?, List.drop_append, List.drop_eq_nil_of_le h, List.nil_append]
  rfl

theorem slice?_zero_append {part text : Bytes} {width : Nat} (h : part.length = width) :
    slice? (part ++ text) 0 width = some part := by
  subst h
  simp [slice?]

theorem read32?_append {before text : Bytes} {position : Nat} (h : before.length ≤ position) :
    read32? (before ++ text) position = read32? text (position - before.length) := by
  rw [read32?, slice?_append h]
  rfl

theorem read64?_append {before text : Bytes} {position : Nat} (h : before.length ≤ position) :
    read64? (before ++ text) position = read64? text (position - before.length) := by
  rw [read64?, slice?_append h]
  rfl

/-- What is read at a place stands at the front of the text from there on. -/
theorem read32?_eq_drop (bytes : Bytes) (position : Nat) :
    read32? bytes position = read32? (bytes.drop position) 0 := rfl

theorem read64?_eq_drop (bytes : Bytes) (position : Nat) :
    read64? bytes position = read64? (bytes.drop position) 0 := rfl

/-- What is read in a later part of a text. -/
theorem read64?_drop (bytes : Bytes) (start position : Nat) :
    read64? (bytes.drop start) position = read64? bytes (start + position) := by
  rw [read64?, slice?, List.drop_drop]
  rfl

theorem read32?_drop (bytes : Bytes) (start position : Nat) :
    read32? (bytes.drop start) position = read32? bytes (start + position) := by
  rw [read32?, slice?, List.drop_drop]
  rfl

@[simp] theorem read32?_encode32_append (n : UInt32) (text : Bytes) :
    read32? (encode32 n ++ text) 0 = some n := by
  rw [read32?, slice?_zero_append (length_encode32 n), Option.map_some, encode32, decode_encode,
    Nat.mod_eq_of_lt (show n.toNat < 256 ^ 4 from n.toNat_lt), UInt32.ofNat_toNat]

@[simp] theorem read64?_encode64_append (n : UInt64) (text : Bytes) :
    read64? (encode64 n ++ text) 0 = some n := by
  rw [read64?, slice?_zero_append (length_encode64 n), Option.map_some, encode64, decode_encode,
    Nat.mod_eq_of_lt (show n.toNat < 256 ^ 8 from n.toNat_lt), UInt64.ofNat_toNat]

/-! ## What is read -/

theorem slice?_eq_some_iff {bytes part : Bytes} {position width : Nat} :
    slice? bytes position width = some part ↔ (bytes.drop position).take width = part ∧ part.length = width := by
  rw [slice?]
  split
  · next h => exact ⟨fun heq => Option.some.inj heq ▸ ⟨rfl, h⟩, fun heq => congrArg some heq.1⟩
  · next h => exact ⟨nofun, fun heq => absurd (heq.1 ▸ heq.2) h⟩

/-- Where the bytes suffice there is a part. -/
theorem slice?_of_le {bytes : Bytes} {position width : Nat} (h : position + width ≤ bytes.length) :
    slice? bytes position width = some ((bytes.drop position).take width) := by
  apply slice?_eq_some_iff.mpr
  refine ⟨rfl, ?_⟩
  rw [List.length_take, List.length_drop]
  omega

/-- A part stands behind the bytes before its place. -/
theorem take_append_slice {bytes part : Bytes} {position width : Nat} (h : slice? bytes position width = some part) :
    bytes.take position ++ part = bytes.take (position + width) := by
  rw [← (slice?_eq_some_iff.mp h).1, List.take_add]

theorem getElem?_of_slice {bytes part : Bytes} {position width i : Nat} (h : slice? bytes position width = some part)
    (hi : i < width) : bytes[position + i]? = part[i]? := by
  rw [← (slice?_eq_some_iff.mp h).1, List.getElem?_take, if_pos hi, List.getElem?_drop]

/-- A number is read where its bytes stand. -/
theorem read32?_eq_some_iff {bytes : Bytes} {position : Nat} {n : UInt32} :
    read32? bytes position = some n ↔ slice? bytes position 4 = some (encode32 n) := by
  rw [read32?, Option.map_eq_some_iff]
  constructor
  · rintro ⟨part, hpart, rfl⟩
    have hlength := (slice?_eq_some_iff.mp hpart).2
    have hlt : decode part < 2 ^ 32 := by
      have := decode_lt part
      rwa [hlength] at this
    rw [hpart, encode32, UInt32.toNat_ofNat_of_lt' hlt, ← hlength, encode_decode]
  · refine fun h => ⟨_, h, ?_⟩
    rw [encode32, decode_encode, Nat.mod_eq_of_lt (show n.toNat < 256 ^ 4 from n.toNat_lt), UInt32.ofNat_toNat]

theorem read64?_eq_some_iff {bytes : Bytes} {position : Nat} {n : UInt64} :
    read64? bytes position = some n ↔ slice? bytes position 8 = some (encode64 n) := by
  rw [read64?, Option.map_eq_some_iff]
  constructor
  · rintro ⟨part, hpart, rfl⟩
    have hlength := (slice?_eq_some_iff.mp hpart).2
    have hlt : decode part < 2 ^ 64 := by
      have := decode_lt part
      rwa [hlength] at this
    rw [hpart, encode64, UInt64.toNat_ofNat_of_lt' hlt, ← hlength, encode_decode]
  · refine fun h => ⟨_, h, ?_⟩
    rw [encode64, decode_encode, Nat.mod_eq_of_lt (show n.toNat < 256 ^ 8 from n.toNat_lt), UInt64.ofNat_toNat]

/-- Where the bytes suffice a number is read. -/
theorem exists_read32? (bytes : Bytes) (position : Nat) (h : position + 4 ≤ bytes.length) :
    ∃ n, read32? bytes position = some n := by
  rw [read32?, slice?_of_le h]
  exact ⟨_, rfl⟩

theorem exists_read64? (bytes : Bytes) (position : Nat) (h : position + 8 ≤ bytes.length) :
    ∃ n, read64? bytes position = some n := by
  rw [read64?, slice?_of_le h]
  exact ⟨_, rfl⟩

end TrigramGrep.Codec.LittleEndian
