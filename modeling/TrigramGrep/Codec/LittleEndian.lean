import TrigramGrep.Bytes

/-!
# Fixed-width numbers, least byte first

Every number of fixed width in an index file is written least byte first.  Reading one at a position
gives `none` when the bytes end before it does.
-/

namespace TrigramGrep.Codec.LittleEndian

/-- The `width` lowest bytes of a number, least first. -/
def encode : Nat → Nat → Bytes
  | 0, _ => []
  | width + 1, n => UInt8.ofNat n :: encode width (n / 256)

/-- The number that bytes spell, least first. -/
def decode : Bytes → Nat
  | [] => 0
  | byte :: rest => byte.toNat + 256 * decode rest

/-- A 32-bit number as four bytes. -/
def encode32 (n : UInt32) : Bytes := encode 4 n.toNat

/-- A 64-bit number as eight bytes. -/
def encode64 (n : UInt64) : Bytes := encode 8 n.toNat

/-- The `width` bytes at a position, if there are that many. -/
def slice? (bytes : Bytes) (position width : Nat) : Option Bytes :=
  let found := (bytes.drop position).take width
  if found.length = width then some found else none

/-- The 32-bit number at a position. -/
def read32? (bytes : Bytes) (position : Nat) : Option UInt32 :=
  (slice? bytes position 4).map fun found => UInt32.ofNat (decode found)

/-- The 64-bit number at a position. -/
def read64? (bytes : Bytes) (position : Nat) : Option UInt64 :=
  (slice? bytes position 8).map fun found => UInt64.ofNat (decode found)

end TrigramGrep.Codec.LittleEndian
