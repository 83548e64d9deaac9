import Mathlib.Data.List.Pairwise
import TrigramGrep.Codec.Gaps
import TrigramGrep.Proofs.Codec.Varint
import TrigramGrep.Proofs.SortedLists

/-!
# Reading back ascending lists

Whatever bytes the reader is given, a list that it returns ascends strictly, because every number lies
beyond the one before.  It returns the list that was written when it is told the right count, and for any
other count, for fewer bytes and for more of them it returns none: what it makes of more bytes than it has
read once goes on from where it stopped (`decodeAfter_append`).  A list of numbers below some bound takes no
more bytes than the bound, since a gap takes no more bytes than it skips numbers, and one.
-/

namespace TrigramGrep.Codec.Gaps

theorem checkedAdd_eq_some_iff {a b sum : UInt32} :
    checkedAdd a b = some sum ↔ a.toNat + b.toNat = sum.toNat := by
  unfold checkedAdd
  have hsum : (a + b).toNat = (a.toNat + b.toNat) % 2 ^ 32 := UInt32.toNat_add a b
  have hlt := sum.toNat_lt
  split
  · next h =>
    rw [Nat.mod_eq_of_lt (show a.toNat + b.toNat < 2 ^ 32 from h)] at hsum
    rw [Option.some.injEq, ← UInt32.toNat_inj, hsum]
  · next h => simp [UInt32.size] at h ⊢; omega

/-- A number that is read lies just as far behind the one before as the gap says. -/
theorem step_some_eq_some_iff {before gap value : UInt32} :
    step (some before) gap = some value ↔ before.toNat + gap.toNat + 1 = value.toNat := by
  simp only [step, Option.bind_eq_bind, Option.bind_eq_some_iff, checkedAdd_eq_some_iff]
  constructor
  · rintro ⟨sum, hsum, hvalue⟩
    rw [hsum, ← hvalue]
    rfl
  · intro h
    have := value.toNat_lt
    refine ⟨UInt32.ofNat (before.toNat + gap.toNat), ?_, ?_⟩ <;>
      rw [UInt32.toNat_ofNat_of_lt' (by simp [UInt32.size]; omega)]
    exact h

/-! ## What is read -/

theorem decodeAfter_zero_eq_some_iff {before : Option UInt32} {bytes : Bytes} {values : List UInt32} :
    decodeAfter before 0 bytes = some values ↔ bytes = [] ∧ values = [] := by
  rw [decodeAfter, Option.ite_none_right_eq_some, List.isEmpty_iff, Option.some.injEq, eq_comm (a := [])]

theorem decodeAfter_succ_eq_some_iff {before : Option UInt32} {count : Nat} {bytes : Bytes} {values : List UInt32} :
    decodeAfter before (count + 1) bytes = some values ↔
      ∃ gap used value rest, Varint.decode? bytes = some (gap, used) ∧ step before gap = some value ∧
        decodeAfter (some value) count (bytes.drop used) = some rest ∧ value :: rest = values := by
  simp [decodeAfter, Option.bind_eq_some_iff]

/-- The first number of a list read behind `before` lies behind it, and the list ascends. -/
theorem pairwise_of_decodeAfter {before : Option UInt32} {count : Nat} {bytes : Bytes}
    {values : List UInt32} (h : decodeAfter before count bytes = some values) :
    (before.toList ++ values).Pairwise (· < ·) := by
  induction count generalizing before bytes values with
  | zero =>
    obtain ⟨-, rfl⟩ := decodeAfter_zero_eq_some_iff.mp h
    cases before <;> simp
  | succ count ih =>
    obtain ⟨gap, used, value, rest, -, hvalue, hrest, rfl⟩ := decodeAfter_succ_eq_some_iff.mp h
    have hsorted : (value :: rest).Pairwise (· < ·) := ih hrest
    cases before with
    | none => exact hsorted
    | some before =>
      -- a gap is one less than a difference, so the next number lies strictly behind
      have hlt : before < value := by
        have := step_some_eq_some_iff.mp hvalue
        exact UInt32.lt_iff_toNat_lt.mpr (by omega)
      refine List.pairwise_cons.mpr ⟨fun id hid => ?_, hsorted⟩
      rcases List.mem_cons.mp hid with rfl | hid
      · exact hlt
      · exact UInt32.lt_trans hlt (List.rel_of_pairwise_cons hsorted hid)

/-- Whatever is read ascends strictly. -/
theorem pairwise_of_decode? {bytes : Bytes} {count : Nat} {values : List UInt32}
    (h : decode? bytes count = some values) : values.Pairwise (· < ·) :=
  pairwise_of_decodeAfter h

theorem length_of_decodeAfter {before : Option UInt32} {count : Nat} {bytes : Bytes} {values : List UInt32}
    (h : decodeAfter before count bytes = some values) : values.length = count := by
  induction count generalizing before bytes values with
  | zero =>
    obtain ⟨-, rfl⟩ := decodeAfter_zero_eq_some_iff.mp h
    rfl
  | succ count ih =>
    obtain ⟨gap, used, value, rest, -, -, hrest, rfl⟩ := decodeAfter_succ_eq_some_iff.mp h
    rw [List.length_cons, ih hrest]

/-! ## More numbers and more bytes -/

/-- Bytes that spell a list, and more bytes: these are read behind the last number of the list. -/
theorem decodeAfter_append {before : Option UInt32} {count : Nat} {bytes : Bytes} {values : List UInt32}
    (h : decodeAfter before count bytes = some values) (count' : Nat) (extra : Bytes) :
    decodeAfter before (count + count') (bytes ++ extra) =
      (decodeAfter (values.getLast?.or before) count' extra).map (values ++ ·) := by
  induction count generalizing before bytes values with
  | zero =>
    obtain ⟨rfl, rfl⟩ := decodeAfter_zero_eq_some_iff.mp h
    rw [Nat.zero_add]
    simp
  | succ count ih =>
    obtain ⟨gap, used, value, rest, hgap, hvalue, hrest, rfl⟩ := decodeAfter_succ_eq_some_iff.mp h
    have hlast : (value :: rest).getLast?.or before = rest.getLast?.or (some value) := by
      cases h : rest.getLast? <;> simp [List.getLast?_cons, h]
    rw [Nat.succ_add, decodeAfter, Varint.decode?_append hgap]
    simp only [Option.bind_eq_bind, Option.bind_some, hvalue, Option.pure_def,
      List.drop_append_of_le_length (Varint.used_le hgap), ih hrest, hlast]
    cases decodeAfter (rest.getLast?.or (some value)) count' extra <;> rfl

/-- Where a list ends there is nothing left of which to read one more number. -/
theorem decode?_eq_none_of_lt {bytes : Bytes} {count count' : Nat} {values : List UInt32} (hlt : count < count')
    (h : decode? bytes count = some values) : decode? bytes count' = none := by
  obtain ⟨more, rfl⟩ := Nat.exists_eq_add_of_lt hlt
  have happend := decodeAfter_append h (more + 1) []
  rw [List.append_nil] at happend
  exact happend

/-- Bytes spell lists of one length only. -/
theorem count_unique {bytes : Bytes} {count count' : Nat} {values values' : List UInt32}
    (h : decode? bytes count = some values) (h' : decode? bytes count' = some values') : count = count' := by
  rcases Nat.lt_trichotomy count count' with hlt | heq | hgt
  · cases (decode?_eq_none_of_lt hlt h).symm.trans h'
  · exact heq
  · cases (decode?_eq_none_of_lt hgt h').symm.trans h

/-- With bytes left over nothing is read. -/
theorem decode?_append_of_ne_nil {bytes extra : Bytes} {count : Nat} {values : List UInt32}
    (h : decode? bytes count = some values) (hextra : extra ≠ []) : decode? (bytes ++ extra) count = none := by
  have happend := decodeAfter_append h 0 extra
  rwa [decodeAfter, if_neg (by rwa [List.isEmpty_iff])] at happend

/-! ## What is written -/

/-- To a later number the gap is one less than the difference. -/
theorem toNat_gap_some {before value : UInt32} (h : before < value) :
    (gap (some before) value).toNat = value.toNat - before.toNat - 1 := by
  have hlt := UInt32.lt_iff_toNat_lt.mp h
  have hle : before ≤ value := UInt32.le_of_lt h
  have hone : (1 : UInt32) ≤ value - before := by
    rw [UInt32.le_iff_toNat_le, UInt32.toNat_sub_of_le _ _ hle]
    simp
    omega
  rw [gap, UInt32.toNat_sub_of_le _ _ hone, UInt32.toNat_sub_of_le _ _ hle]
  rfl

/-- The step that a gap was made for leads back to its number. -/
theorem step_gap {before : Option UInt32} {value : UInt32}
    (h : ∀ b ∈ before, b < value) : step before (gap before value) = some value := by
  cases before with
  | none => rfl
  | some before =>
    have hlt := h before rfl
    have := UInt32.lt_iff_toNat_lt.mp hlt
    rw [step_some_eq_some_iff, toNat_gap_some hlt]
    omega

theorem decodeAfter_encodeAfter (before : Option UInt32) {values : List UInt32}
    (h : (before.toList ++ values).Pairwise (· < ·)) :
    decodeAfter before values.length (encodeAfter before values) = some values := by
  induction values generalizing before with
  | nil => simp [encodeAfter, decodeAfter]
  | cons value values ih =>
    have hbefore : ∀ b ∈ before, b < value := by
      rintro b rfl
      exact List.rel_of_pairwise_cons h (List.mem_cons_self ..)
    have hvalues : (value :: values).Pairwise (· < ·) := h.sublist (List.sublist_append_right _ _)
    rw [encodeAfter, List.length_cons, decodeAfter, Varint.decode?_encode_append]
    simp only [Option.bind_eq_bind, Option.bind_some, step_gap hbefore, List.drop_left,
      ih (some value) hvalues, Option.pure_def]

/-- An ascending list is read back. -/
theorem decode?_encode {values : List UInt32} (h : values.Pairwise (· < ·)) :
    decode? (encode values) values.length = some values :=
  decodeAfter_encodeAfter none h

/-- Numbers below a bound take no more bytes than the bound; those that follow a number take no more than
what is left above it. -/
theorem length_encodeAfter_le (before : Option UInt32) {values : List UInt32} {bound : Nat}
    (h : (before.toList ++ values).Pairwise (· < ·))
    (hbound : ∀ value ∈ before.toList ++ values, value.toNat < bound) :
    (encodeAfter before values).length + (before.elim 0 fun b => b.toNat + 1) ≤ bound := by
  induction values generalizing before with
  | nil =>
    cases before with
    | none => simp [encodeAfter]
    | some before =>
      have := hbound before (by simp)
      simp only [encodeAfter, List.length_nil, Option.elim_some]
      omega
  | cons value values ih =>
    have hvalues : (value :: values).Pairwise (· < ·) := h.sublist (List.sublist_append_right _ _)
    -- what is left above `value` is enough for the others, and the gap for `value` itself
    have hrest := ih (some value) hvalues fun v hv =>
      hbound v (List.mem_append_right _ hv)
    have hlength := Varint.length_encode_le (gap before value)
    rw [encodeAfter, List.length_append]
    simp only [Option.elim_some] at hrest
    cases before with
    | none =>
      simp only [gap, Option.elim_none] at hlength ⊢
      omega
    | some before =>
      have hlt : before < value := List.rel_of_pairwise_cons h (List.mem_cons_self ..)
      have := UInt32.lt_iff_toNat_lt.mp hlt
      rw [toNat_gap_some hlt] at hlength
      simp only [Option.elim_some]
      omega

/-- An ascending list of numbers below a bound takes no more bytes than the bound. -/
theorem length_encode_le {values : List UInt32} {bound : Nat} (h : values.Pairwise (· < ·))
    (hbound : ∀ value ∈ values, value.toNat < bound) : (encode values).length ≤ bound :=
  length_encodeAfter_le none h hbound

/-- So it takes no more bytes than its last number says, and one. -/
theorem length_encode_le_last {values : List UInt32} {last : UInt32} (h : values.Pairwise (· < ·))
    (hlast : values.getLast? = some last) : (encode values).length ≤ last.toNat + 1 := by
  apply length_encode_le h
  intro value hvalue
  have hle := (h.imp UInt32.le_of_lt).rel_getLast hvalue
  rw [List.getLast?_eq_some_getLast (List.ne_nil_of_mem hvalue), Option.some.injEq] at hlast
  rw [hlast] at hle
  exact Nat.lt_succ_of_le (UInt32.le_iff_toNat_le.mp hle)

/-- Every number takes a byte at least. -/
theorem length_le_length_encodeAfter (before : Option UInt32) (values : List UInt32) :
    values.length ≤ (encodeAfter before values).length := by
  induction values generalizing before with
  | nil => simp
  | cons value values ih =>
    have hpos := List.length_pos_iff.mpr (Varint.encode_ne_nil (gap before value))
    have hrest := ih (some value)
    rw [encodeAfter, List.length_append, List.length_cons]
    omega

/-! ## Room -/

variable {bytes : Bytes} {count : Nat}

/-- Where there are addresses for all numbers, the bytes alone decide what is read. -/
theorem decode_of_le (h : count ≤ maxCount) : decode bytes count = .ok (decode? bytes count) :=
  if_neg (Nat.not_lt_of_le h)

/-- What is read at all is what the bytes spell. -/
theorem decode?_of_decode {result : Option (List UInt32)} (h : decode bytes count = .ok result) :
    decode? bytes count = result := by
  unfold decode at h
  split at h
  · cases h
  · exact Except.ok.inj h

/-- A number of 32 bits never asks for too much room. -/
theorem toNat_le_maxCount (n : UInt32) : n.toNat ≤ maxCount :=
  Nat.le_trans (Nat.le_of_lt n.toNat_lt) (by decide)

/-- Nor does an ascending list. -/
theorem length_le_maxCount {ids : List UInt32} (h : ids.Pairwise (· < ·)) : ids.length ≤ maxCount :=
  Nat.le_trans (SortedLists.length_le_of_ascending h) (by decide)

/-! ## Lists and their bytes -/

/-- The bytes of an ascending list are read back for its own count, and for no other one for which there is room; with
bytes missing and with bytes left over nothing is read.  Whatever else is read ascends, too, and has as many numbers as
were asked for. -/
theorem reads_exactly {ids : List UInt32} (h : ids.Pairwise (· < ·)) :
    decode (encode ids) ids.length = .ok (some ids) ∧
      (∀ count ≤ maxCount, count ≠ ids.length → decode (encode ids) count = .ok none) ∧
      (∀ part, part <+: encode ids → part ≠ encode ids → decode part ids.length = .ok none) ∧
      (∀ extra, extra ≠ [] → decode (encode ids ++ extra) ids.length = .ok none) ∧
      ∀ bytes count values, decode bytes count = .ok (some values) →
        values.Pairwise (· < ·) ∧ values.length = count := by
  have hread := decode?_encode h
  have hroom := length_le_maxCount h
  refine ⟨?_, fun count hcount hne => ?_, ?_, fun extra hextra => ?_, fun bytes count values hvalues => ?_⟩
  · rw [decode_of_le hroom, hread]
  · rw [decode_of_le hcount]
    exact congrArg Except.ok
      (Option.eq_none_iff_forall_ne_some.mpr fun values hvalues => hne (count_unique hvalues hread))
  · rintro part ⟨extra, hextra⟩ hne
    rw [decode_of_le hroom]
    refine congrArg Except.ok (Option.eq_none_iff_forall_ne_some.mpr fun values hvalues => ?_)
    -- were the beginning a list of so many numbers, the whole would have bytes left over
    have hnil : extra ≠ [] := by
      rintro rfl
      exact hne (by rw [← hextra, List.append_nil])
    have hnone := decode?_append_of_ne_nil hvalues hnil
    rw [hextra, hread] at hnone
    cases hnone
  · rw [decode_of_le hroom, decode?_append_of_ne_nil hread hextra]
  · have hspelled := decode?_of_decode hvalues
    exact ⟨pairwise_of_decode? hspelled, length_of_decodeAfter hspelled⟩

theorem reads_exactly_three :
    [3, 4, 300].Pairwise ((· < ·) : UInt32 → UInt32 → Prop) ∧ encode [3, 4, 300] = [3, 0, 0xA7, 2] ∧
      decode [3, 0, 0xA7, 2] 3 = .ok (some [3, 4, 300]) ∧ decode [3, 0, 0xA7, 2] 2 = .ok none ∧
      decode [3, 0, 0xA7] 3 = .ok none ∧ decode [3, 0, 0xA7, 2, 0] 3 = .ok none := by
  have hascending : [3, 4, 300].Pairwise ((· < ·) : UInt32 → UInt32 → Prop) := by decide
  have hencode : encode [3, 4, 300] = [3, 0, 0xA7, 2] := by cbv
  obtain ⟨hown, hcount, hpart, hextra, -⟩ := reads_exactly hascending
  rw [hencode] at hown hcount hpart hextra
  exact ⟨hascending, hencode, hown, hcount 2 (by decide) (by decide), hpart [3, 0, 0xA7] ⟨[2], rfl⟩ (by decide),
    hextra [0] (by decide)⟩

/-- For `2 ^ 61` numbers there are no addresses: nothing is read, and none is not returned either. -/
theorem not_forall_decode_eq_none :
    ¬ ∀ (ids : List UInt32) (count : Nat), ids.Pairwise (· < ·) → count ≠ ids.length →
      decode (encode ids) count = .ok none := by
  intro h
  have hroom : decode [] (2 ^ 61) = .error (.tooMany (2 ^ 61)) := if_pos (by decide)
  cases hroom.symm.trans (h [] (2 ^ 61) .nil (by decide))

end TrigramGrep.Codec.Gaps
