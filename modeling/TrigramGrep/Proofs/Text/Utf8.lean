import TrigramGrep.Proofs.Bytes
import TrigramGrep.Text.Utf8

/-!
# Reading back texts

The bytes of a text are read as that text.  A character is recognised at the front of its bytes, whatever
follows, and nothing else is recognised as that character; the reading of a whole text takes the characters
off one by one and meets no fault.
-/

namespace TrigramGrep.Text.Utf8

/-! ## Bytes and their numbers -/

private theorem toNat_ofNat {n : Nat} (h : n < 256) : (UInt8.ofNat n).toNat = n :=
  UInt8.toNat_ofNat_of_lt' h

private theorem ofNat_eq (byte : UInt8) {n : Nat} (h : n = byte.toNat) : UInt8.ofNat n = byte := by
  rw [h, UInt8.ofNat_toNat]

private theorem between_iff {low high byte : UInt8} :
    (low ≤ byte && byte ≤ high) = true ↔ low.toNat ≤ byte.toNat ∧ byte.toNat ≤ high.toNat := by
  simp only [UInt8.le_iff_toNat_le, Bool.and_eq_true, decide_eq_true_eq]

theorem isContinuation_ofNat {n : Nat} (h : n < 64) : isContinuation (UInt8.ofNat (n + 128)) = true := by
  simp only [isContinuation, UInt8.le_iff_toNat_le, toNat_ofNat (show n + 128 < 256 by omega),
    UInt8.reduceToNat, Bool.and_eq_true, decide_eq_true_eq]
  omega

theorem payload_ofNat {n : Nat} (h : n < 64) : payload (UInt8.ofNat (n + 128)) = n := by
  rw [payload, toNat_ofNat (by omega)]
  omega

theorem payload_lt (byte : UInt8) : payload byte < 64 := Nat.mod_lt _ (by decide)

theorem toNat_of_isContinuation {byte : UInt8} (h : isContinuation byte = true) :
    byte.toNat = payload byte + 128 ∧ payload byte < 64 := by
  simp only [isContinuation, UInt8.le_iff_toNat_le, UInt8.reduceToNat, Bool.and_eq_true,
    decide_eq_true_eq] at h
  rw [payload]
  omega

/-! ## Reading one character -/

private theorem front_one {n : Nat} (h : n < 128) (rest : Bytes) :
    front (UInt8.ofNat n :: rest) = some (.ok (Char.ofNat n, 1)) := by
  have hlead := toNat_ofNat (show n < 256 by omega)
  rw [front.eq_def]
  dsimp only
  rw [if_pos (by rw [UInt8.lt_iff_toNat_lt, hlead]; exact h), hlead]

private theorem front_two {a b : Nat} (ha : 2 ≤ a) (ha' : a < 32) (hb : b < 64) (rest : Bytes) :
    front (UInt8.ofNat (a + 192) :: UInt8.ofNat (b + 128) :: rest) =
      some (.ok (Char.ofNat (a * 64 + b), 2)) := by
  have hlead := toNat_ofNat (show a + 192 < 256 by omega)
  have hone : ¬ UInt8.ofNat (a + 192) < 0x80 := by
    simp only [UInt8.lt_iff_toNat_lt, hlead, UInt8.reduceToNat]
    omega
  have htwo : (0xC2 ≤ UInt8.ofNat (a + 192) && UInt8.ofNat (a + 192) ≤ 0xDF) = true := by
    simp only [between_iff, hlead, UInt8.reduceToNat]
    omega
  rw [front.eq_def]
  dsimp only
  rw [if_neg hone, if_pos htwo]
  simp only [isContinuation_ofNat hb, if_true, payload_ofNat hb, hlead,
    show (a + 192) % 32 = a by omega]

private theorem front_three {a b c : Nat} (ha : a < 16) (hb : b < 64) (hc : c < 64)
    (hlow : a = 0 → 32 ≤ b) (hhigh : a = 13 → b < 32) (rest : Bytes) :
    front (UInt8.ofNat (a + 224) :: UInt8.ofNat (b + 128) :: UInt8.ofNat (c + 128) :: rest) =
      some (.ok (Char.ofNat ((a * 64 + b) * 64 + c), 3)) := by
  have hlead := toNat_ofNat (show a + 224 < 256 by omega)
  have hnext := toNat_ofNat (show b + 128 < 256 by omega)
  have hone : ¬ UInt8.ofNat (a + 224) < 0x80 := by
    simp only [UInt8.lt_iff_toNat_lt, hlead, UInt8.reduceToNat]
    omega
  have htwo : ¬ (0xC2 ≤ UInt8.ofNat (a + 224) && UInt8.ofNat (a + 224) ≤ 0xDF) = true := by
    simp only [between_iff, hlead, UInt8.reduceToNat]
    omega
  have hthree : (0xE0 ≤ UInt8.ofNat (a + 224) && UInt8.ofNat (a + 224) ≤ 0xEF) = true := by
    simp only [between_iff, hlead, UInt8.reduceToNat]
    omega
  have hsecond : secondOfThree (UInt8.ofNat (a + 224)) (UInt8.ofNat (b + 128)) = true := by
    simp only [secondOfThree, isContinuation, ← UInt8.toNat_inj, UInt8.le_iff_toNat_le, hlead, hnext,
      UInt8.reduceToNat]
    split
    · simp only [Bool.and_eq_true, decide_eq_true_eq]
      omega
    · split <;> simp only [Bool.and_eq_true, decide_eq_true_eq] <;> omega
  rw [front.eq_def]
  dsimp only
  rw [if_neg hone, if_neg htwo, if_pos hthree]
  simp only [hsecond, Bool.not_true, Bool.false_eq_true, if_false, isContinuation_ofNat hc, if_true,
    payload_ofNat hb, payload_ofNat hc, hlead, show (a + 224) % 16 = a by omega]

private theorem front_four {a b c d : Nat} (ha : a < 5) (hb : b < 64) (hc : c < 64) (hd : d < 64)
    (hlow : a = 0 → 16 ≤ b) (hhigh : a = 4 → b < 16) (rest : Bytes) :
    front (UInt8.ofNat (a + 240) :: UInt8.ofNat (b + 128) :: UInt8.ofNat (c + 128) ::
        UInt8.ofNat (d + 128) :: rest) =
      some (.ok (Char.ofNat (((a * 64 + b) * 64 + c) * 64 + d), 4)) := by
  have hlead := toNat_ofNat (show a + 240 < 256 by omega)
  have hnext := toNat_ofNat (show b + 128 < 256 by omega)
  have hone : ¬ UInt8.ofNat (a + 240) < 0x80 := by
    simp only [UInt8.lt_iff_toNat_lt, hlead, UInt8.reduceToNat]
    omega
  have htwo : ¬ (0xC2 ≤ UInt8.ofNat (a + 240) && UInt8.ofNat (a + 240) ≤ 0xDF) = true := by
    simp only [between_iff, hlead, UInt8.reduceToNat]
    omega
  have hthree : ¬ (0xE0 ≤ UInt8.ofNat (a + 240) && UInt8.ofNat (a + 240) ≤ 0xEF) = true := by
    simp only [between_iff, hlead, UInt8.reduceToNat]
    omega
  have hfour : (0xF0 ≤ UInt8.ofNat (a + 240) && UInt8.ofNat (a + 240) ≤ 0xF4) = true := by
    simp only [between_iff, hlead, UInt8.reduceToNat]
    omega
  have hsecond : secondOfFour (UInt8.ofNat (a + 240)) (UInt8.ofNat (b + 128)) = true := by
    simp only [secondOfFour, isContinuation, ← UInt8.toNat_inj, UInt8.le_iff_toNat_le, hlead, hnext,
      UInt8.reduceToNat]
    split
    · simp only [Bool.and_eq_true, decide_eq_true_eq]
      omega
    · split <;> simp only [Bool.and_eq_true, decide_eq_true_eq] <;> omega
  rw [front.eq_def]
  dsimp only
  rw [if_neg hone, if_neg htwo, if_neg hthree, if_pos hfour]
  simp only [hsecond, Bool.not_true, Bool.false_eq_true, if_false, isContinuation_ofNat hc,
    isContinuation_ofNat hd, if_true, payload_ofNat hb, payload_ofNat hc, payload_ofNat hd, hlead,
    show (a + 240) % 8 = a by omega]

/-- A character is recognised at the front of its bytes. -/
theorem front_append (c : Char) (rest : Bytes) :
    front (String.utf8EncodeChar c ++ rest) = some (.ok (c, (String.utf8EncodeChar c).length)) := by
  have hvalid : c.val.toNat < 0xD800 ∨ 0xDFFF < c.val.toNat ∧ c.val.toNat < 0x110000 := c.valid
  have hback : Char.ofNat c.val.toNat = c := Char.ofNat_toNat c
  generalize hv : c.val.toNat = v at hvalid hback
  rw [String.utf8EncodeChar, hv, ← hback]
  split
  · exact front_one (by omega) rest
  · split
    · refine (front_two (a := v / 64 % 32) (b := v % 64) ?_ ?_ ?_ rest).trans ?_ <;> try omega
      rw [show v / 64 % 32 * 64 + v % 64 = v by omega]
      rfl
    · split
      · refine (front_three (a := v / 4096 % 16) (b := v / 64 % 64) (c := v % 64)
          ?_ ?_ ?_ ?_ ?_ rest).trans ?_ <;> try omega
        rw [show (v / 4096 % 16 * 64 + v / 64 % 64) * 64 + v % 64 = v by omega]
        rfl
      · refine (front_four (a := v / 262144 % 8) (b := v / 4096 % 64) (c := v / 64 % 64)
          (d := v % 64) ?_ ?_ ?_ ?_ ?_ ?_ rest).trans ?_ <;> try omega
        rw [show ((v / 262144 % 8 * 64 + v / 4096 % 64) * 64 + v / 64 % 64) * 64 + v % 64 = v by omega]
        rfl

/-! ## The bytes of a character -/

theorem toNat_val_ofNat {v : Nat} (h : v.isValidChar) : (Char.ofNat v).val.toNat = v := by
  rw [Char.ofNat, dif_pos h]
  rfl

theorem secondOfThree_eq_true {lead second : UInt8} (h : secondOfThree lead second = true) :
    second.toNat = payload second + 128 ∧ (lead.toNat = 224 → 32 ≤ payload second) ∧
      (lead.toNat = 237 → payload second < 32) := by
  simp only [secondOfThree, isContinuation, ← UInt8.toNat_inj, UInt8.reduceToNat] at h
  rw [payload]
  split at h
  · simp only [between_iff, UInt8.reduceToNat] at h
    omega
  · split at h <;> simp only [between_iff, UInt8.reduceToNat] at h <;> omega

theorem secondOfFour_eq_true {lead second : UInt8} (h : secondOfFour lead second = true) :
    second.toNat = payload second + 128 ∧ (lead.toNat = 240 → 16 ≤ payload second) ∧
      (lead.toNat = 244 → payload second < 16) := by
  simp only [secondOfFour, isContinuation, ← UInt8.toNat_inj, UInt8.reduceToNat] at h
  rw [payload]
  split at h
  · simp only [between_iff, UInt8.reduceToNat] at h
    omega
  · split at h <;> simp only [between_iff, UInt8.reduceToNat] at h <;> omega

/-- The bytes of a character that one byte tells. -/
theorem utf8EncodeChar_one {lead : UInt8} (hlead : lead.toNat < 128) :
    String.utf8EncodeChar (Char.ofNat lead.toNat) = [lead] := by
  rw [String.utf8EncodeChar, toNat_val_ofNat (.inl (by omega)), if_pos (by omega), ofNat_eq lead rfl]

/-- The bytes of a character that two bytes tell. -/
theorem utf8EncodeChar_two {lead b : UInt8} (hlead : 194 ≤ lead.toNat ∧ lead.toNat ≤ 223)
    (hb : isContinuation b = true) :
    String.utf8EncodeChar (Char.ofNat (lead.toNat % 32 * 64 + payload b)) = [lead, b] := by
  obtain ⟨hb, hpayload⟩ := toNat_of_isContinuation hb
  rw [String.utf8EncodeChar, toNat_val_ofNat (.inl (by omega)), if_neg (by omega), if_pos (by omega),
    ofNat_eq lead (by omega), ofNat_eq b (by omega)]

/-- The bytes of a character that three bytes tell. -/
theorem utf8EncodeChar_three {lead b c : UInt8} (hlead : 224 ≤ lead.toNat ∧ lead.toNat ≤ 239)
    (hb : secondOfThree lead b = true) (hc : isContinuation c = true) :
    String.utf8EncodeChar (Char.ofNat ((lead.toNat % 16 * 64 + payload b) * 64 + payload c)) =
      [lead, b, c] := by
  obtain ⟨hb, hlow, hhigh⟩ := secondOfThree_eq_true hb
  obtain ⟨hc, hpayload⟩ := toNat_of_isContinuation hc
  have := payload_lt b
  -- the second byte keeps the number out of the surrogates
  have hvalid : ((lead.toNat % 16 * 64 + payload b) * 64 + payload c).isValidChar := by
    rw [Nat.isValidChar]
    omega
  rw [String.utf8EncodeChar, toNat_val_ofNat hvalid, if_neg (by omega), if_neg (by omega), if_pos (by omega),
    ofNat_eq lead (by omega), ofNat_eq b (by omega), ofNat_eq c (by omega)]

/-- The bytes of a character that four bytes tell. -/
theorem utf8EncodeChar_four {lead b c d : UInt8} (hlead : 240 ≤ lead.toNat ∧ lead.toNat ≤ 244)
    (hb : secondOfFour lead b = true) (hc : isContinuation c = true) (hd : isContinuation d = true) :
    String.utf8EncodeChar
        (Char.ofNat (((lead.toNat % 8 * 64 + payload b) * 64 + payload c) * 64 + payload d)) =
      [lead, b, c, d] := by
  obtain ⟨hb, hlow, hhigh⟩ := secondOfFour_eq_true hb
  obtain ⟨hc, hpayload⟩ := toNat_of_isContinuation hc
  obtain ⟨hd, hlast⟩ := toNat_of_isContinuation hd
  have := payload_lt b
  have hvalid : (((lead.toNat % 8 * 64 + payload b) * 64 + payload c) * 64 + payload d).isValidChar := by
    rw [Nat.isValidChar]
    omega
  rw [String.utf8EncodeChar, toNat_val_ofNat hvalid, if_neg (by omega), if_neg (by omega), if_neg (by omega),
    ofNat_eq lead (by omega), ofNat_eq b (by omega), ofNat_eq c (by omega),
    ofNat_eq d (by omega)]

/-- What is recognised as a character at the front are the bytes of that character. -/
theorem eq_append_of_front {bytes : Bytes} {c : Char} {n : Nat}
    (h : front bytes = some (.ok (c, n))) :
    ∃ rest, bytes = String.utf8EncodeChar c ++ rest ∧ n = (String.utf8EncodeChar c).length := by
  rw [front.eq_def] at h
  -- every case with a fault is closed at once; the four others are the four lengths
  split at h
  · cases h
  next lead rest =>
  split at h
  · next hone =>
    cases h
    rw [utf8EncodeChar_one (UInt8.lt_iff_toNat_lt.mp hone)]
    exact ⟨rest, rfl, rfl⟩
  split at h
  · next htwo =>
    split at h
    · cases h
    split at h
    · next b rest hb =>
      cases h
      rw [utf8EncodeChar_two (between_iff.mp htwo) hb]
      exact ⟨rest, rfl, rfl⟩
    · cases h
  split at h
  · next hthree =>
    split at h
    · cases h
    next b rest =>
    cases hb : secondOfThree lead b with
    | false => rw [hb] at h; cases h
    | true =>
      rw [hb, if_neg (by decide)] at h
      split at h
      · cases h
      split at h
      · next c rest hc =>
        cases h
        rw [utf8EncodeChar_three (between_iff.mp hthree) hb hc]
        exact ⟨rest, rfl, rfl⟩
      · cases h
  split at h
  · next hfour =>
    split at h
    · cases h
    next b rest =>
    cases hb : secondOfFour lead b with
    | false => rw [hb] at h; cases h
    | true =>
      rw [hb, if_neg (by decide)] at h
      split at h
      · cases h
      next c rest =>
      cases hc : isContinuation c with
      | false => rw [hc] at h; cases h
      | true =>
        rw [hc, if_neg (by decide)] at h
        split at h
        · cases h
        split at h
        · next d rest hd =>
          cases h
          rw [utf8EncodeChar_four (between_iff.mp hfour) hb hc hd]
          exact ⟨rest, rfl, rfl⟩
        · cases h
  · cases h

/-! ## A whole text -/

theorem piecesFrom_flatMap (text : List Char) (fuel : Nat)
    (hfuel : (text.flatMap String.utf8EncodeChar).length ≤ fuel)
    (done : List (Except Fault Char × Nat)) :
    piecesFrom fuel (text.flatMap String.utf8EncodeChar) done =
      done.reverse ++ text.map fun c => (.ok c, (String.utf8EncodeChar c).length) := by
  induction text generalizing fuel done with
  | nil => cases fuel <;> simp [piecesFrom, front]
  | cons c text ih =>
    have hpos : 0 < (String.utf8EncodeChar c).length :=
      List.length_pos_iff.mpr String.utf8EncodeChar_ne_nil
    rw [List.flatMap_cons, List.length_append] at hfuel
    obtain ⟨fuel, rfl⟩ : ∃ n, fuel = n + 1 := ⟨fuel - 1, by omega⟩
    rw [List.flatMap_cons, piecesFrom, front_append]
    dsimp only
    rw [List.drop_left, ih fuel (by omega)]
    simp

theorem firstFault_map_ok (text : List Char) (size : Char → Nat) (position : Nat) :
    firstFault position (text.map fun c => (Except.ok c, size c)) = none := by
  induction text generalizing position with
  | nil => rfl
  | cons c text ih => exact ih (position + size c)

/-- A text is read back from its bytes. -/
theorem decode_ofString (text : String) : decode (Bytes.ofString text) = .ok text := by
  have hpieces : pieces (Bytes.ofString text) =
      text.toList.map fun c => (.ok c, (String.utf8EncodeChar c).length) := by
    rw [Bytes.ofString_eq_flatMap, pieces, piecesFrom_flatMap _ _ (Nat.le_refl _)]
    rfl
  have htext : (pieces (Bytes.ofString text)).filterMap (fun piece => piece.1.toOption) =
      text.toList := by
    rw [hpieces, List.filterMap_map]
    exact List.filterMap_some
  rw [decode, htext, hpieces, firstFault_map_ok]
  simp

/-! ## The bytes that a text was read from -/

/-- Only the end of the bytes has neither a character nor a fault at its front. -/
theorem eq_nil_of_front_eq_none {bytes : Bytes} (h : front bytes = none) : bytes = [] := by
  rw [front.eq_def] at h
  split at h
  · rfl
  · repeat' split at h
    all_goals cases h

theorem mem_piecesFrom_of_mem {piece : Except Fault Char × Nat} {fuel : Nat} {bytes : Bytes}
    {done : List (Except Fault Char × Nat)} (h : piece ∈ done) : piece ∈ piecesFrom fuel bytes done := by
  fun_induction piecesFrom fuel bytes done with
  | case1 _ done => exact List.mem_reverse.mpr h
  | case2 _ _ done _ => exact List.mem_reverse.mpr h
  | case3 _ _ done _ _ _ ih => exact ih (List.mem_cons_of_mem _ h)
  | case4 _ _ done _ _ ih => exact ih (List.mem_cons_of_mem _ h)
  | case5 _ _ done _ => exact List.mem_reverse.mpr (List.mem_cons_of_mem _ h)

/-- Without a fault all pieces are characters. -/
theorem isOk_of_firstFault_eq_none {position : Nat} {pieces : List (Except Fault Char × Nat)}
    (h : firstFault position pieces = none) : ∀ piece ∈ pieces, piece.1.isOk = true := by
  fun_induction firstFault position pieces with
  | case1 _ => exact fun _ => nofun
  | case2 _ _ _ _ => cases h
  | case3 _ c n rest ih => exact List.forall_mem_cons.mpr ⟨rfl, ih h⟩

theorem flatMap_piecesFrom {fuel : Nat} {bytes : Bytes} {done : List (Except Fault Char × Nat)}
    (hfuel : bytes.length ≤ fuel) (h : ∀ piece ∈ piecesFrom fuel bytes done, piece.1.isOk = true) :
    ((piecesFrom fuel bytes done).filterMap fun piece => piece.1.toOption).flatMap String.utf8EncodeChar =
      (done.reverse.filterMap fun piece => piece.1.toOption).flatMap String.utf8EncodeChar ++ bytes := by
  fun_induction piecesFrom fuel bytes done with
  | case1 bytes done =>
    rw [List.length_eq_zero_iff.mp (Nat.le_zero.mp hfuel), List.append_nil]
  | case2 fuel bytes done hfront =>
    rw [eq_nil_of_front_eq_none hfront, List.append_nil]
  | case3 fuel bytes done c n hfront ih =>
    obtain ⟨rest, rfl, rfl⟩ := eq_append_of_front hfront
    have hpos : 0 < (String.utf8EncodeChar c).length :=
      List.length_pos_iff.mpr String.utf8EncodeChar_ne_nil
    rw [List.length_append] at hfuel
    rw [List.drop_left] at ih h ⊢
    rw [ih (by omega) h]
    simp [Except.toOption]
  | case4 fuel bytes done n hfront ih => cases h _ (mem_piecesFrom_of_mem List.mem_cons_self)
  | case5 fuel bytes done hfront => cases h _ (List.mem_reverse.mpr List.mem_cons_self)

/-- The bytes of a text that was read are those that it was read from. -/
theorem ofString_of_decode {bytes : Bytes} {text : String} (h : decode bytes = .ok text) :
    Bytes.ofString text = bytes := by
  rw [decode] at h
  split at h
  · cases h
  · next hfault =>
    cases h
    rw [Bytes.ofString_eq_flatMap, String.toList_ofList, pieces,
      flatMap_piecesFrom (Nat.le_refl _) (isOk_of_firstFault_eq_none hfault)]
    rfl

/-! ## Lossy reading -/

/-- Where all pieces are characters, none is replaced. -/
theorem filterMap_eq_map_of_isOk {pieces : List (Except Fault Char × Nat)}
    (h : ∀ piece ∈ pieces, piece.1.isOk = true) :
    pieces.filterMap (fun piece => piece.1.toOption) = pieces.map fun piece =>
      match piece.1 with
      | .ok c => c
      | .error _ => Char.ofNat 0xFFFD := by
  induction pieces with
  | nil => rfl
  | cons piece pieces ih =>
    obtain ⟨hpiece, hpieces⟩ := List.forall_mem_cons.mp h
    obtain ⟨found, n⟩ := piece
    cases found with
    | ok c => exact congrArg (c :: ·) (ih hpieces)
    | error fault => cases hpiece

/-- Valid bytes lose nothing when they are read with replacements for faults. -/
theorem ofString_lossy {bytes : Bytes} (h : isValid bytes = true) : Bytes.ofString (lossy bytes) = bytes := by
  have hfault : firstFault 0 (pieces bytes) = none := Option.isNone_iff_eq_none.mp h
  refine ofString_of_decode ?_
  rw [decode, hfault, filterMap_eq_map_of_isOk (isOk_of_firstFault_eq_none hfault)]
  rfl

/-- Every piece takes a byte at least. -/
theorem length_piecesFrom_le (fuel : Nat) (bytes : Bytes) (done : List (Except Fault Char × Nat)) :
    (piecesFrom fuel bytes done).length ≤ fuel + done.length := by
  fun_induction piecesFrom fuel bytes done with
  | case1 _ done => simp
  | case2 _ _ done _ => rw [List.length_reverse]; omega
  | case3 _ _ done _ _ _ ih => rw [List.length_cons] at ih; omega
  | case4 _ _ done _ _ ih => rw [List.length_cons] at ih; omega
  | case5 _ _ done _ => rw [List.length_reverse, List.length_cons]; omega

theorem length_flatMap_utf8EncodeChar_le (text : List Char) :
    (text.flatMap String.utf8EncodeChar).length ≤ 4 * text.length := by
  induction text with
  | nil => simp
  | cons c text ih =>
    have hsize := c.utf8Size_le_four
    rw [List.flatMap_cons, List.length_append, String.length_utf8EncodeChar, List.length_cons]
    omega

/-- A text that is read with replacements takes four bytes at most for each byte that was read. -/
theorem length_ofString_lossy_le (bytes : Bytes) : (Bytes.ofString (lossy bytes)).length ≤ 4 * bytes.length := by
  have hchars : (lossy bytes).toList.length ≤ bytes.length := by
    rw [lossy, String.toList_ofList, List.length_map]
    exact length_piecesFrom_le bytes.length bytes []
  have hbytes := length_flatMap_utf8EncodeChar_le (lossy bytes).toList
  rw [Bytes.ofString_eq_flatMap]
  omega

end TrigramGrep.Text.Utf8
