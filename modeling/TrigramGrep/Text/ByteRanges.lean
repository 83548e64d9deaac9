import TrigramGrep.CharSet
import TrigramGrep.Text.Utf8

/-!
# Ranges of characters as ranges of bytes

The UTF-8 forms of a range of characters are not a product of ranges of bytes, but the range can be cut
into pieces for which they are.  A piece must not cross the surrogates nor a length of the form, and where
its ends differ in a byte, all later bytes have to run over all continuation bytes.
-/

namespace TrigramGrep.Text.Utf8

/-- The code points at which the form becomes longer: the last ones of each shorter length. -/
def lengthEnds : List Nat := [0x7F, 0x7FF, 0xFFFF]

/-- The numbers of code points that share all bytes but the last one, two or three. -/
def blockSizes : List Nat := [0x40, 0x1000, 0x40000]

/-- The last code point of the first piece of a range, if the range has to be cut for its length. -/
def lengthCut? (r : Range) : Option Nat :=
  lengthEnds.find? fun stop => r.low ≤ stop && stop < r.high

/-- The last code point of the first piece of a range, if the range has to be cut at a block. -/
def blockCut? (r : Range) : Option Nat :=
  if r.high ≤ 0x7F then none
  else
    blockSizes.findSome? fun size =>
      if r.low / size = r.high / size then none
      else if r.low % size ≠ 0 then some (r.low - r.low % size + size - 1)
      else if r.high % size ≠ size - 1 then some (r.high - r.high % size - 1)
      else none

/-- The byte ranges of the pieces of a range of characters, in order; `fuel` bounds the cuts on the way
to a piece. -/
def byteRangesIn : (fuel : Nat) → Range → List (List Range)
  | 0, _ => []
  | fuel + 1, r =>
    if r.high < r.low then []
    else if r.low < 0xE000 ∧ 0xD7FF < r.high then
      byteRangesIn fuel ⟨r.low, 0xD7FF⟩ ++ byteRangesIn fuel ⟨0xE000, r.high⟩
    else
      match (lengthCut? r).or (blockCut? r) with
      | some stop => byteRangesIn fuel ⟨r.low, stop⟩ ++ byteRangesIn fuel ⟨stop + 1, r.high⟩
      | none =>
        [(encode r.low).zipWith (fun low high => ⟨low.toNat, high.toNat⟩) (encode r.high)]

/-- The byte ranges of the pieces of a range of characters, in order. -/
def byteRanges (r : Range) : List (List Range) := byteRangesIn (r.high - r.low + 2) r

end TrigramGrep.Text.Utf8
