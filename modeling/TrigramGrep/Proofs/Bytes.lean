import Mathlib.Tactic.SplitIfs
import TrigramGrep.Bytes
import TrigramGrep.CharSet

/-!
# The bytes of a text

The bytes of a text are those of its characters, one character behind the other.  The other way round, bytes have a
printable form, of one, two or four characters for each; the first characters tell how many they are, so the bytes can
be read back one by one (`unescapeByte_escapeByte_append`).
-/

namespace TrigramGrep.Bytes

private theorem toList_loop (array : ByteArray) (i : Nat) (done : Bytes) :
    ByteArray.toList.loop array i done = done.reverse ++ array.data.toList.drop i := by
  fun_induction ByteArray.toList.loop array i done with
  | case1 i done hlt ih =>
    have hlength : i < array.data.toList.length := by simpa using hlt
    have hget : array.get! i = array.data[i]! := by cases array; rfl
    rw [ih, List.drop_eq_getElem_cons hlength, hget, getElem!_pos array.data i hlt]
    simp
  | case2 i done hle =>
    rw [List.drop_eq_nil_of_le (by simpa using Nat.le_of_not_lt hle)]
    simp

/-- The bytes of a text character by character. -/
theorem ofString_eq_flatMap (text : String) :
    ofString text = text.toList.flatMap String.utf8EncodeChar := by
  have hlist : text.toUTF8.toList = text.toUTF8.data.toList := by
    rw [ByteArray.toList, toList_loop]
    simp
  have hbytes : text.toUTF8 = (text.toList.flatMap String.utf8EncodeChar).toByteArray :=
    (String.utf8Encode_toList (b := text)).symm
  rw [ofString, hlist, hbytes, List.toList_data_toByteArray]

/-- A text that is not empty has bytes. -/
theorem length_ofString_pos {text : String} (h : text ≠ "") : 0 < (ofString text).length := by
  rw [ofString_eq_flatMap]
  obtain ⟨first, rest, htext⟩ := List.exists_cons_of_ne_nil (mt String.toList_eq_nil_iff.mp h)
  rw [htext, List.flatMap_cons, List.length_append]
  have hfirst := List.length_pos_iff.mpr (String.utf8EncodeChar_ne_nil (c := first))
  omega

/-! ## Printable form -/

/-- The byte at the front of a text in printable form, and what follows it. -/
def unescapeByte : List Char → Option (UInt8 × List Char)
  | '\\' :: 't' :: rest => some (9, rest)
  | '\\' :: 'r' :: rest => some (13, rest)
  | '\\' :: 'n' :: rest => some (10, rest)
  | '\\' :: 'x' :: high :: low :: rest =>
    some (UInt8.ofNat (16 * CharSet.hexDigitValue high + CharSet.hexDigitValue low), rest)
  | '\\' :: c :: rest => some (UInt8.ofNat c.toNat, rest)
  | c :: rest => some (UInt8.ofNat c.toNat, rest)
  | [] => none

theorem hexDigitValue_hexDigit {n : Nat} (h : n < 16) : CharSet.hexDigitValue (hexDigit n) = n := by
  have hall : ∀ m : Fin 16, CharSet.hexDigitValue (hexDigit m) = m := by decide
  exact hall ⟨n, h⟩

theorem unescapeByte_of_ne {c : Char} (h : c ≠ '\\') (rest : List Char) :
    unescapeByte (c :: rest) = some (UInt8.ofNat c.toNat, rest) := by
  unfold unescapeByte
  split <;> simp_all

/-- The printable form of a byte tells the byte and where it ends. -/
theorem unescapeByte_escapeByte_append (byte : UInt8) (rest : List Char) :
    unescapeByte (escapeByte byte ++ rest) = some (byte, rest) := by
  have hbyte := byte.toNat_lt
  unfold escapeByte
  split_ifs with htab hreturn hfeed hapostrophe hquote hbackslash hplain
  · rw [htab]; rfl
  · rw [hreturn]; rfl
  · rw [hfeed]; rfl
  · rw [hapostrophe]; rfl
  · rw [hquote]; rfl
  · rw [hbackslash]; rfl
  · have hlow : byte.toNat < 127 := UInt8.lt_iff_toNat_lt.mp hplain.2
    have hall : ∀ n : Fin 127, (Char.ofNat n).toNat = n := by decide
    have htoNat : (Char.ofNat byte.toNat).toNat = byte.toNat := hall ⟨byte.toNat, hlow⟩
    have hne : Char.ofNat byte.toNat ≠ '\\' := fun heq =>
      hbackslash (UInt8.toNat_inj.mp (htoNat.symm.trans (congrArg Char.toNat heq)))
    rw [List.singleton_append, unescapeByte_of_ne hne, htoNat, UInt8.ofNat_toNat]
  · have hhigh := hexDigitValue_hexDigit (show byte.toNat / 16 < 16 by omega)
    have hlow := hexDigitValue_hexDigit (show byte.toNat % 16 < 16 by omega)
    simp only [hexPair, List.cons_append, List.nil_append, unescapeByte, hhigh, hlow, Nat.div_add_mod,
      UInt8.ofNat_toNat]

/-- The printable form of bytes tells the bytes and where they end, if it is known how many they are. -/
theorem escape_append_injective {xs ys : Bytes} {r s : List Char} (hlength : xs.length = ys.length)
    (h : escape xs ++ r = escape ys ++ s) : xs = ys ∧ r = s := by
  induction xs generalizing ys with
  | nil =>
    rw [List.length_eq_zero_iff.mp hlength.symm] at h ⊢
    exact ⟨rfl, h⟩
  | cons x xs ih =>
    obtain ⟨y, ys, rfl⟩ := List.exists_cons_of_length_eq_add_one hlength.symm
    simp only [escape, List.flatMap_cons, List.append_assoc] at h ih
    have hread := congrArg unescapeByte h
    rw [unescapeByte_escapeByte_append, unescapeByte_escapeByte_append, Option.some.injEq, Prod.mk.injEq] at hread
    obtain ⟨rfl, hrest⟩ := ih (Nat.succ.inj hlength) hread.2
    exact ⟨by rw [hread.1], hrest⟩

end TrigramGrep.Bytes
