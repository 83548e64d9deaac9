import TrigramGrep.Trigram

/-!
# Sets of trigrams as a table of bits

The set holds one bit for each of the `2 ^ 24` windows that three bytes can form, 64 bits to a word.
Setting a bit needs no bounds check at run time: the word index of a window is below the number of
words because a window is a number of 24 bits (`Trigram.toNat_ofBytes_lt`).  Reading the set walks
the words in order and the bits of each word from the lowest, so the members come out ascending.
-/

namespace TrigramGrep.Trigram

/-- A set of 24-bit trigrams: bit `k` of word `i` stands for the trigram `64 * i + k`. -/
structure Bitmap where
  words : Vector UInt64 262144

namespace Bitmap

/-- The set without members. -/
def empty : Bitmap :=
  ⟨Vector.replicate 262144 0⟩

/-- The word that holds the bit of a window. -/
def wordOf (a b c : UInt8) : Nat :=
  (ofBytes a b c).toNat / 64

/-- The bit of a window within its word. -/
def bitOf (a b c : UInt8) : UInt64 :=
  (1 : UInt64) <<< UInt64.ofNat ((ofBytes a b c).toNat % 64)

/-- No window falls outside the table. -/
theorem wordOf_lt (a b c : UInt8) : wordOf a b c < 262144 :=
  Nat.div_lt_of_lt_mul (toNat_ofBytes_lt a b c)

/-- The set with the window of three bytes added. -/
def insert (set : Bitmap) (a b c : UInt8) : Bitmap :=
  ⟨set.words.set (wordOf a b c)
    (set.words.get ⟨wordOf a b c, wordOf_lt a b c⟩ ||| bitOf a b c) (wordOf_lt a b c)⟩

/-- The position of the lowest bit of a word that is set. -/
def lowestBit (word : UInt64) : Nat :=
  word.toBitVec.ctz.toNat

/-- A word without its lowest bit that is set. -/
def clearLowest (word : UInt64) : UInt64 :=
  word &&& (word - 1)

/-- There is an end to clearing bits. -/
theorem toNat_clearLowest_lt {word : UInt64} (h : word ≠ 0) : (clearLowest word).toNat < word.toNat := by
  have hpos : 0 < word.toNat := Nat.pos_of_ne_zero fun hzero => h (UInt64.toNat_inj.mp hzero)
  have hone : (1 : UInt64) ≤ word := UInt64.le_iff_toNat_le.mpr hpos
  have hle : (clearLowest word).toNat ≤ (word - 1).toNat := by
    rw [clearLowest, UInt64.toNat_and]
    exact Nat.and_le_right
  rw [UInt64.toNat_sub_of_le _ _ hone, UInt64.toNat_one] at hle
  omega

/-- The members that one word stands for, ascending: its lowest bit is read off and cleared until none is
left. -/
def membersOfWord (word : UInt64) (index : Nat) : List Trigram :=
  if word = 0 then []
  else UInt32.ofNat (64 * index + lowestBit word) :: membersOfWord (clearLowest word) index
termination_by word.toNat
decreasing_by exact toNat_clearLowest_lt ‹_›

/-- The members of a set, ascending. -/
def toList (set : Bitmap) : List Trigram :=
  set.words.toList.zipIdx.flatMap fun (word, index) => membersOfWord word index

/-- The set with every window of a text added. -/
def insertWindows (set : Bitmap) (text : Bytes) : Bitmap :=
  ((text.zip (text.drop 1)).zip (text.drop 2)).foldl (fun set ((a, b), c) => set.insert a b c) set

end Bitmap

/-- Texts below this length are sorted, longer ones go through a table of bits. -/
def bitmapThreshold : Nat := 1024

/-- The distinct trigrams of a text, ascending, by the road that suits its length. -/
def extract (text : Bytes) : List Trigram :=
  if text.length < 3 then []
  else if text.length < bitmapThreshold then distinct text
  else (Bitmap.empty.insertWindows text).toList

end TrigramGrep.Trigram
