import Mathlib.Algebra.Group.Nat.Defs
import Mathlib.Data.List.Sort
import TrigramGrep.Proofs.Trigram.Windows
import TrigramGrep.Trigram.Bitmap

/-!
# Both roads to the trigrams of a text

Short texts have their windows sorted, long ones set a bit for each window and read the bits off.  Both give
the same list, so what is known of the windows of a text holds of its trigrams, however long it is.

## Shape of the proof

`Bitmap.has` says of a number whether its bit is set.  Adding a window sets its bit and no other
(`Bitmap.has_insert`), so after all windows of a text just their bits are set.  A word is read from its lowest
bit, which is cleared before the next one is looked for, and clearing takes away this bit and no other
(`Bitmap.testBit_clearLowest`).  So the bits are read in ascending order, and two ascending lists with the
same members are equal.
-/

namespace TrigramGrep.Trigram

namespace Bitmap

/-- Whether the bit of a number is set. -/
def has (set : Bitmap) (n : Nat) : Bool :=
  set.words[n / 64]?.any fun word => word.toNat.testBit (n % 64)

/-! ## Setting bits -/

theorem has_empty (n : Nat) : empty.has n = false := by
  simp only [has, empty, Vector.getElem?_replicate]
  split <;> simp

/-- The bit of a window is the only one of its word. -/
theorem testBit_bitOf (a b c : UInt8) {k : Nat} (hk : k < 64) :
    (bitOf a b c).toNat.testBit k = decide (k = (ofBytes a b c).toNat % 64) := by
  have hbit : (UInt64.ofNat ((ofBytes a b c).toNat % 64)).toNat = (ofBytes a b c).toNat % 64 :=
    UInt64.toNat_ofNat_of_lt' (by simp only [UInt64.size]; omega)
  rw [bitOf, UInt64.toNat_shiftLeft, hbit, UInt64.toNat_one, Nat.mod_mod, Nat.testBit_mod_two_pow,
    Nat.one_shiftLeft, Nat.testBit_two_pow, decide_eq_true hk, Bool.true_and]
  exact decide_eq_decide.mpr eq_comm

/-- Adding a window sets its bit and no other. -/
theorem has_insert (set : Bitmap) (a b c : UInt8) (n : Nat) :
    (set.insert a b c).has n = (decide (n = (ofBytes a b c).toNat) || set.has n) := by
  have hlt : (ofBytes a b c).toNat / 64 < 262144 := wordOf_lt a b c
  simp only [has, insert, Vector.getElem?_set, wordOf]
  by_cases hword : (ofBytes a b c).toNat / 64 = n / 64
  · have hget : set.words[n / 64]? = some (set.words.get ⟨wordOf a b c, wordOf_lt a b c⟩) := by
      rw [← hword]
      exact Vector.getElem?_eq_getElem hlt
    have hbit : (n = (ofBytes a b c).toNat) ↔ n % 64 = (ofBytes a b c).toNat % 64 := by omega
    rw [if_pos hword, hget, decide_eq_decide.mpr hbit]
    simp only [Option.any_some, UInt64.toNat_or, Nat.testBit_or,
      testBit_bitOf a b c (Nat.mod_lt n (by decide)), wordOf]
    exact Bool.or_comm ..
  · have hne : n ≠ (ofBytes a b c).toNat := by omega
    rw [if_neg hword, decide_eq_false hne, Bool.false_or]

/-- After all windows of a text their bits are set, and those that were set before. -/
theorem has_insertWindows (set : Bitmap) (text : Bytes) (t : Trigram) :
    (set.insertWindows text).has t.toNat = true ↔ t ∈ windows text ∨ set.has t.toNat = true := by
  rw [insertWindows, windows]
  generalize (text.zip (text.drop 1)).zip (text.drop 2) = triples
  induction triples generalizing set with
  | nil => simp
  | cons triple triples ih =>
    obtain ⟨⟨a, b⟩, c⟩ := triple
    rw [List.foldl_cons, ih, has_insert, List.map_cons, List.mem_cons, Bool.or_eq_true,
      decide_eq_true_eq, UInt32.toNat_inj]
    exact or_left_comm.trans or_assoc.symm

/-! ## Reading bits -/

theorem lowestBit_lt {word : UInt64} (h : word ≠ 0) : lowestBit word < 64 :=
  BitVec.ctz_lt_iff_ne_zero.mpr fun hzero => h (UInt64.toBitVec_inj.mp hzero)

/-- A word has the bit that is read off, and none below it. -/
theorem testBit_lowestBit {word : UInt64} (h : word ≠ 0) : word.toNat.testBit (lowestBit word) = true :=
  BitVec.getLsbD_true_ctz_of_ne_zero fun hzero => h (UInt64.toBitVec_inj.mp hzero)

theorem testBit_of_lt_lowestBit {word : UInt64} {k : Nat} (h : k < lowestBit word) :
    word.toNat.testBit k = false :=
  BitVec.getLsbD_false_of_lt_ctz h

/-- So a word is made of its lowest bit and what lies above it. -/
theorem toNat_eq_above_add_lowest {word : UInt64} (h : word ≠ 0) :
    word.toNat = 2 ^ (lowestBit word + 1) * (word.toNat / 2 ^ (lowestBit word + 1)) + 2 ^ lowestBit word := by
  have hlowest : word.toNat % 2 ^ (lowestBit word + 1) = 2 ^ lowestBit word := by
    apply Nat.eq_of_testBit_eq
    intro k
    rw [Nat.testBit_mod_two_pow, Nat.testBit_two_pow]
    rcases Nat.lt_trichotomy k (lowestBit word) with hk | rfl | hk
    · rw [testBit_of_lt_lowestBit hk, Bool.and_false, decide_eq_false (Nat.ne_of_gt hk)]
    · rw [testBit_lowestBit h, Bool.and_true, decide_eq_decide]
      exact iff_of_true (Nat.lt_succ_self _) rfl
    · rw [decide_eq_false (Nat.not_lt.mpr hk), Bool.false_and, decide_eq_false (Nat.ne_of_lt hk)]
  rw [← hlowest, Nat.div_add_mod]

/-- Clearing the lowest bit leaves what lies above it. -/
theorem toNat_clearLowest {word : UInt64} (h : word ≠ 0) :
    (clearLowest word).toNat = 2 ^ (lowestBit word + 1) * (word.toNat / 2 ^ (lowestBit word + 1)) := by
  have hone : (1 : UInt64) ≤ word :=
    UInt64.le_iff_toNat_le.mpr (Nat.pos_of_ne_zero fun hzero => h (UInt64.toNat_inj.mp hzero))
  have heq := toNat_eq_above_add_lowest h
  rw [clearLowest, UInt64.toNat_and, UInt64.toNat_sub_of_le _ _ hone, UInt64.toNat_one]
  generalize word.toNat / 2 ^ (lowestBit word + 1) = above at heq ⊢
  generalize lowestBit word = lowest at heq ⊢
  have hpos : 0 < 2 ^ lowest := Nat.two_pow_pos lowest
  have hlt : 2 ^ lowest < 2 ^ (lowest + 1) := Nat.pow_lt_pow_succ (by decide)
  -- one less, and the bits below the lowest one are set in its place
  have hless : word.toNat - 1 = 2 ^ (lowest + 1) * above + (2 ^ lowest - 1) := by omega
  rw [hless, heq]
  apply Nat.eq_of_testBit_eq
  intro k
  rw [Nat.testBit_and, Nat.testBit_two_pow_mul_add above hlt, Nat.testBit_two_pow_mul_add above (by omega),
    Nat.testBit_two_pow_mul, Nat.testBit_two_pow, Nat.testBit_two_pow_sub_one]
  by_cases hk : k < lowest + 1
  · have hnot : ¬(lowest = k ∧ k < lowest) := by omega
    rw [if_pos hk, if_pos hk, decide_eq_false (show ¬k ≥ lowest + 1 by omega), Bool.false_and, ← Bool.decide_and,
      decide_eq_false hnot]
  · rw [if_neg hk, if_neg hk, Bool.and_self, decide_eq_true (Nat.not_lt.mp hk), Bool.true_and]

/-- It takes that bit away and no other. -/
theorem testBit_clearLowest {word : UInt64} (h : word ≠ 0) (k : Nat) :
    (clearLowest word).toNat.testBit k = (word.toNat.testBit k && decide (lowestBit word < k)) := by
  rw [toNat_clearLowest h, Nat.testBit_two_pow_mul]
  by_cases hk : lowestBit word < k
  · have hbit : word.toNat.testBit k =
        (word.toNat / 2 ^ (lowestBit word + 1)).testBit (k - (lowestBit word + 1)) := by
      rw [Nat.testBit_div_two_pow, Nat.sub_add_cancel hk]
    rw [hbit, decide_eq_true hk, decide_eq_true (show k ≥ lowestBit word + 1 from hk), Bool.true_and, Bool.and_true]
  · rw [decide_eq_false hk, decide_eq_false (show ¬k ≥ lowestBit word + 1 from hk), Bool.false_and, Bool.and_false]

theorem mem_membersOfWord {word : UInt64} {index : Nat} {t : Trigram} :
    t ∈ membersOfWord word index ↔
      ∃ k < 64, word.toNat.testBit k = true ∧ UInt32.ofNat (64 * index + k) = t := by
  fun_induction membersOfWord word index with
  | case1 => simp
  | case2 word hne ih =>
    rw [List.mem_cons, ih]
    constructor
    · rintro (rfl | ⟨k, hk, hbit, rfl⟩)
      · exact ⟨lowestBit word, lowestBit_lt hne, testBit_lowestBit hne, rfl⟩
      · rw [testBit_clearLowest hne, Bool.and_eq_true] at hbit
        exact ⟨k, hk, hbit.1, rfl⟩
    · rintro ⟨k, hk, hbit, rfl⟩
      rcases Nat.lt_trichotomy k (lowestBit word) with hlt | rfl | hgt
      · rw [testBit_of_lt_lowestBit hlt] at hbit
        cases hbit
      · exact .inl rfl
      · refine .inr ⟨k, hk, ?_, rfl⟩
        rw [testBit_clearLowest hne, hbit, decide_eq_true hgt, Bool.and_self]

theorem toNat_ofNat {index k : Nat} (hindex : index < 262144) (hk : k < 64) :
    (UInt32.ofNat (64 * index + k)).toNat = 64 * index + k :=
  UInt32.toNat_ofNat_of_lt' (by simp only [UInt32.size]; omega)

/-- The members that are read off are the numbers whose bits are set. -/
theorem mem_toList {set : Bitmap} {t : Trigram} : t ∈ set.toList ↔ set.has t.toNat = true := by
  simp only [toList, List.mem_flatMap, Prod.exists, List.mk_mem_zipIdx_iff_getElem?, mem_membersOfWord,
    has, Option.any_eq_true, Vector.getElem?_toList]
  constructor
  · rintro ⟨word, index, hword, k, hk, hbit, rfl⟩
    have hindex : index < 262144 := (Vector.getElem?_eq_some_iff.mp hword).1
    have hquotient : (64 * index + k) / 64 = index := by omega
    have hrest : (64 * index + k) % 64 = k := by omega
    rw [toNat_ofNat hindex hk, hquotient, hrest]
    exact ⟨word, hword, hbit⟩
  · rintro ⟨word, hword, hbit⟩
    refine ⟨word, t.toNat / 64, hword, t.toNat % 64, Nat.mod_lt _ (by decide), hbit, ?_⟩
    rw [Nat.div_add_mod, UInt32.ofNat_toNat]

theorem pairwise_membersOfWord (word : UInt64) {index : Nat} (hindex : index < 262144) :
    (membersOfWord word index).Pairwise (· < ·) := by
  fun_induction membersOfWord word index with
  | case1 => exact .nil
  | case2 word hne ih =>
    refine List.pairwise_cons.mpr ⟨fun t ht => ?_, ih⟩
    -- what is left lies above the bit that was cleared
    obtain ⟨k, hk, hbit, rfl⟩ := mem_membersOfWord.mp ht
    rw [testBit_clearLowest hne, Bool.and_eq_true, decide_eq_true_eq] at hbit
    rw [UInt32.lt_iff_toNat_lt, toNat_ofNat hindex (lowestBit_lt hne), toNat_ofNat hindex hk]
    omega

/-- Members are read off in ascending order. -/
theorem pairwise_toList (set : Bitmap) : set.toList.Pairwise (· < ·) := by
  have hindex : ∀ entry ∈ set.words.toList.zipIdx, entry.2 < 262144 := fun entry hentry => by
    simpa using List.snd_lt_of_mem_zipIdx hentry
  refine List.pairwise_flatMap.mpr ⟨fun entry hentry => ?_, ?_⟩
  · exact pairwise_membersOfWord entry.1 (hindex entry hentry)
  · have hnumbers : set.words.toList.zipIdx.Pairwise fun a b => a.2 < b.2 := by
      rw [← List.pairwise_map (f := Prod.snd) (R := fun m n : Nat => m < n), List.zipIdx_map_snd]
      exact List.pairwise_lt_range'
    refine hnumbers.imp_of_mem fun {x y} hx hy hxy s hs t ht => ?_
    obtain ⟨i, hi, -, rfl⟩ := mem_membersOfWord.mp hs
    obtain ⟨j, hj, -, rfl⟩ := mem_membersOfWord.mp ht
    rw [UInt32.lt_iff_toNat_lt, toNat_ofNat (hindex x hx) hi, toNat_ofNat (hindex y hy) hj]
    omega

end Bitmap

/-- The road that is taken makes no difference. -/
theorem extract_eq_distinct (text : Bytes) : extract text = distinct text := by
  unfold extract
  split
  · next hshort => simp [distinct, windows_eq_nil hshort, List.eraseReps, List.eraseRepsBy]
  · split
    · rfl
    · refine (Bitmap.pairwise_toList _).eq_of_mem_iff (pairwise_distinct text) fun t => ?_
      rw [Bitmap.mem_toList, Bitmap.has_insertWindows, Bitmap.has_empty, mem_distinct]
      simp

/-- **The trigrams of a text**, however long it is: both roads give the same list, which ascends strictly and has
just the numbers of the windows of three bytes.  The bit of a window lies in a word of the table, which ends after
`2 ^ 24` bits. -/
theorem extract_windows (text : Bytes) :
    extract text = distinct text ∧
      (extract text).Pairwise (· < ·) ∧
      (∀ t, t ∈ extract text ↔ ∃ a b c, [a, b, c] <:+: text ∧
        t.toNat = a.toNat * 65536 + b.toNat * 256 + c.toNat) ∧
      ∀ a b c, 64 * (Bitmap.wordOf a b c + 1) ≤ 2 ^ 24 ∧
        64 * Bitmap.wordOf a b c + (ofBytes a b c).toNat % 64 = a.toNat * 65536 + b.toNat * 256 + c.toNat := by
  refine ⟨extract_eq_distinct text, ?_, fun t => ?_, fun a b c => ⟨?_, ?_⟩⟩
  · rw [extract_eq_distinct]
    exact pairwise_distinct text
  · rw [extract_eq_distinct, mem_distinct, mem_windows_iff]
    simp only [← UInt32.toNat_inj, toNat_ofBytes]
  · have hword := Bitmap.wordOf_lt a b c
    omega
  · rw [Bitmap.wordOf, Nat.div_add_mod, toNat_ofBytes]

/-- The trigrams of a text are its windows. -/
theorem mem_extract {t : Trigram} {text : Bytes} : t ∈ extract text ↔ t ∈ windows text := by
  rw [extract_eq_distinct, mem_distinct]

end TrigramGrep.Trigram
