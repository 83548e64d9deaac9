import TrigramGrep.Bytes

/-!
# Numbers of variable width

A 32-bit number is written seven bits to a byte, least first, and every byte but the last has its
top bit set.  The reader stops at the first byte without that bit; it gives up when the bytes end
first, and when a byte would start beyond bit 31.  What the fifth byte carries above bit 31 falls
away.
-/

namespace TrigramGrep.Codec.Varint

/-- The bytes of a number. -/
def encode (value : UInt32) : Bytes :=
  if value < 128 then [value.toUInt8]
  else (value.toUInt8 ||| 0x80) :: encode (value >>> 7)
termination_by value.toNat
decreasing_by
  rename_i h
  have : ¬ value.toNat < 128 := fun hlt => h (UInt32.lt_iff_toNat_lt.mpr hlt)
  simp only [UInt32.toNat_shiftRight, UInt32.reduceToNat, Nat.shiftRight_eq_div_pow, Nat.reduceMod,
    Nat.reducePow]
  omega

/-- The number at the front of a byte string, given the bits read so far and the place of the next
ones, with the number of bytes it takes. -/
def decodeFrom (value : UInt32) (shift used : Nat) : Bytes → Option (UInt32 × Nat)
  | [] => none
  | byte :: rest =>
    if 32 ≤ shift then none
    else
      let value := value ||| ((byte &&& 0x7F).toUInt32 <<< UInt32.ofNat shift)
      if byte &&& 0x80 = 0 then some (value, used + 1)
      else decodeFrom value (shift + 7) (used + 1) rest

/-- The number at the front of a byte string and the number of bytes it takes. -/
def decode? (bytes : Bytes) : Option (UInt32 × Nat) :=
  decodeFrom 0 0 0 bytes

end TrigramGrep.Codec.Varint
