import TrigramGrep.Codec.Varint

/-!
# Ascending lists of numbers as gaps

A strictly ascending list is written as its first number and then, for each later one, the count of
numbers skipped since the one before, so a run of neighbours costs one zero byte each.  The reader is
told how many numbers to expect; it refuses a number that breaks off, one that leaves 32 bits, and
bytes left over at the end.

Before the first byte is looked at, room is set aside for all numbers (`Gaps.decode`).  A machine has no
address for more than `Gaps.maxCount` of them, so nothing at all comes of asking for more.
-/

namespace TrigramGrep.Codec.Gaps

/-- The gap that leads from the number before, if there is one, to the next. -/
def gap (before : Option UInt32) (value : UInt32) : UInt32 :=
  match before with
  | none => value
  | some p => value - p - 1

/-- The bytes of an ascending list that follows the number `before`. -/
def encodeAfter (before : Option UInt32) : List UInt32 → Bytes
  | [] => []
  | value :: rest => Varint.encode (gap before value) ++ encodeAfter (some value) rest

/-- The bytes of an ascending list. -/
def encode (values : List UInt32) : Bytes :=
  encodeAfter none values

/-- The sum of two 32-bit numbers, if it is one. -/
def checkedAdd (a b : UInt32) : Option UInt32 :=
  if a.toNat + b.toNat < UInt32.size then some (a + b) else none

/-- The number that lies `gap` further than the one before. -/
def step (before : Option UInt32) (gap : UInt32) : Option UInt32 :=
  match before with
  | none => some gap
  | some p => do
    let sum ← checkedAdd p gap
    checkedAdd sum 1

/-- The `count` numbers that bytes spell after the number `before`. -/
def decodeAfter (before : Option UInt32) : Nat → Bytes → Option (List UInt32)
  | 0, bytes => if bytes.isEmpty then some [] else none
  | count + 1, bytes => do
    let (gap, used) ← Varint.decode? bytes
    let value ← step before gap
    let rest ← decodeAfter (some value) count (bytes.drop used)
    return value :: rest

/-- Exactly `count` numbers from bytes. -/
def decode? (bytes : Bytes) (count : Nat) : Option (List UInt32) :=
  decodeAfter none count bytes

/-- The largest number of numbers that room can be set aside for: four bytes each, fewer than `2 ^ 63` in all. -/
def maxCount : Nat := 0x1FFFFFFFFFFFFFFF

/-- Why reading comes to nothing, whatever the bytes are. -/
inductive CapacityOverflow where
  /-- There are no addresses for so many numbers. -/
  | tooMany (count : Nat)
  deriving DecidableEq, Repr

/-- Sets room aside for `count` numbers and reads exactly so many from bytes. -/
def decode (bytes : Bytes) (count : Nat) : Except CapacityOverflow (Option (List UInt32)) :=
  if maxCount < count then .error (.tooMany count) else .ok (decode? bytes count)

end TrigramGrep.Codec.Gaps
