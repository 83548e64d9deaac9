import TrigramGrep.Bytes

/-!
# Trigrams

A trigram is a window of three consecutive bytes, read as one big-endian number, so that the order
of numbers is the order of windows.  Every window gives a number below `2 ^ 24`; an index and a query
may nevertheless carry any 32-bit number in the place of a trigram, and going back to bytes drops
the top one.

## Shape of the extraction

`Trigram.distinct` is the definition: all windows, sorted, each kept once.  Long texts take another
road (`Trigram.extract`): one bit per possible trigram is set in a table of `2 ^ 24` bits, and the
table is read off in ascending order.
-/

namespace TrigramGrep

/-- Three consecutive bytes of a text as one number. -/
abbrev Trigram := UInt32

namespace Trigram

/-- The trigram of three bytes. -/
def ofBytes (first second third : UInt8) : Trigram :=
  first.toUInt32 * 65536 + second.toUInt32 * 256 + third.toUInt32

/-- The three bytes of a trigram; a number above `2 ^ 24` loses its top byte. -/
def toBytes (t : Trigram) : Bytes :=
  [(t >>> 16).toUInt8, (t >>> 8).toUInt8, t.toUInt8]

/-- A trigram as hexadecimal digits, at least six of them. -/
def toHex (t : Trigram) : String :=
  let digits := Nat.toDigits 16 t.toNat
  String.ofList (List.replicate (6 - digits.length) '0' ++ digits)

/-- The windows of three consecutive bytes of a text, in order. -/
def windows (text : Bytes) : List Trigram :=
  ((text.zip (text.drop 1)).zip (text.drop 2)).map fun ((a, b), c) => ofBytes a b c

/-- The distinct trigrams of a text, ascending. -/
def distinct (text : Bytes) : List Trigram :=
  ((windows text).mergeSort fun s t => decide (s ≤ t)).eraseReps

theorem toNat_ofBytes (a b c : UInt8) :
    (ofBytes a b c).toNat = a.toNat * 65536 + b.toNat * 256 + c.toNat := by
  have ha := a.toNat_lt
  have hb := b.toNat_lt
  have hc := c.toNat_lt
  simp only [ofBytes, UInt32.toNat_add, UInt32.toNat_mul, UInt8.toNat_toUInt32,
    UInt32.reduceToNat]
  omega

/-- Every window is a number of 24 bits. -/
theorem toNat_ofBytes_lt (a b c : UInt8) : (ofBytes a b c).toNat < 0x1000000 := by
  have ha := a.toNat_lt
  have hb := b.toNat_lt
  have hc := c.toNat_lt
  rw [toNat_ofBytes]
  omega

/-- A number of 24 bits is known by its three bytes. -/
theorem toBytes_injective {s t : Trigram} (hs : s.toNat < 0x1000000) (ht : t.toNat < 0x1000000)
    (h : toBytes s = toBytes t) : s = t := by
  have hbytes (u : Trigram) :
      (toBytes u).map UInt8.toNat = [u.toNat / 65536 % 256, u.toNat / 256 % 256, u.toNat % 256] := by
    simp [toBytes, UInt32.toNat_shiftRight, Nat.shiftRight_eq_div_pow]
  have hnat := congrArg (List.map UInt8.toNat) h
  rw [hbytes, hbytes] at hnat
  simp only [List.cons.injEq, and_true] at hnat
  exact UInt32.toNat_inj.mp (by omega)

end Trigram

end TrigramGrep
