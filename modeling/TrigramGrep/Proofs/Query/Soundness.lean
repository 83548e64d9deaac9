import TrigramGrep.Proofs.Query.Coherence
import TrigramGrep.Proofs.Regex.Language

/-!
# The query of an expression holds of every text with a match

`Analysis.Describes` says what an analysis claims of a language: its exact set holds all words, its sets of
beginnings and endings cover them, and its condition is met by every text that has a word in it.  Each
operation on analyses keeps this, for all limits, and so the query that is derived from an expression is
met by every text with a match.

## Shape of the proof

* Making an analysis fit (`Analysis.simplify`) never changes the language: it moves what is known of the
  words from the exact set to the other sets and the condition, and cuts strings at the inner end.
* `Analysis.concat` describes the product of two languages; what straddles the seam is a string of the
  tails of the one and a string of the heads of the other, and stands in the text as a whole.
* `Analysis.alternate` describes the sum, and `Analysis.repeatedly` every power but the zeroth, because a
  word of a power begins and ends with a word of the language.
-/

namespace TrigramGrep

namespace Analysis

/-- What an analysis says of the words of a language. -/
structure Describes (a : Analysis) (L : Language UInt8) : Prop where
  canBeEmpty : [] ∈ L → a.canBeEmpty = true
  exact : ∀ set, a.exact = some set → ∀ w ∈ L, w ∈ set
  heads : a.exact = none → ∀ w ∈ L, a.heads.Covers .front w
  tails : a.exact = none → ∀ w ∈ L, a.tails.Covers .back w
  condition : ∀ w ∈ L, ∀ text, w <:+: text → a.condition.holdsOf text = true

variable {a x y : Analysis} {L M : Language UInt8}

theorem Describes.beginnings (h : a.Describes L) {w : Bytes} (hw : w ∈ L) :
    a.beginnings.Covers .front w := by
  unfold Analysis.beginnings
  cases he : a.exact with
  | none => exact h.heads he w hw
  | some set => exact .of_mem (h.exact set he w hw)

theorem Describes.endings (h : a.Describes L) {w : Bytes} (hw : w ∈ L) :
    a.endings.Covers .back w := by
  unfold Analysis.endings
  cases he : a.exact with
  | none => exact h.tails he w hw
  | some set => exact .of_mem (h.exact set he w hw)

theorem Describes.mono (h : a.Describes L) (hM : M ≤ L) : a.Describes M where
  canBeEmpty he := h.canBeEmpty (hM he)
  exact set hs w hw := h.exact set hs w (hM hw)
  heads hn w hw := h.heads hn w (hM hw)
  tails hn w hw := h.tails hn w (hM hw)
  condition w hw := h.condition w (hM hw)

/-! ## Conditions -/

theorem holdsOf_conj (text : Bytes) (p q : Query) :
    (p.conj q).holdsOf text = (p.holdsOf text && q.holdsOf text) :=
  Query.holds_conj _ p q

theorem holdsOf_disj (text : Bytes) (p q : Query) :
    (p.disj q).holdsOf text = (p.holdsOf text || q.holdsOf text) :=
  Query.holds_disj _ p q

/-- A set that covers the words of a language gives a condition that texts with a word meet. -/
theorem holdsOf_condition_of_covers {side : Side} {set : StringSet} {w text : Bytes}
    (h : set.Covers side w) (hw : w <:+: text) : set.condition.holdsOf text = true := by
  obtain ⟨s, hs, hsw⟩ := h
  exact StringSet.holdsOf_condition hs (hsw.isPart.trans hw)

theorem Describes.withExact (h : a.Describes L) : a.withExact.Describes L := by
  unfold Analysis.withExact
  split
  · exact h
  · next set he =>
    refine { h with condition := fun w hw text hwt => ?_ }
    have := StringSet.holdsOf_condition (h.exact set he w hw) hwt
    simp [holdsOf_conj, h.condition w hw text hwt, this]

/-! ## Making an analysis fit -/

theorem Describes.simplifyHeads (h : a.Describes L) (hn : a.exact = none) (limits : Limits) :
    (a.simplifyHeads limits).Describes L where
  canBeEmpty := h.canBeEmpty
  exact := h.exact
  heads _ w hw := ((h.heads hn w hw).clean.reduce _).prune
  tails := h.tails
  condition w hw text hwt := by
    have := holdsOf_condition_of_covers (h.heads hn w hw).clean hwt
    simp [Analysis.simplifyHeads, holdsOf_conj, h.condition w hw text hwt, this]

theorem Describes.simplifyTails (h : a.Describes L) (hn : a.exact = none) (limits : Limits) :
    (a.simplifyTails limits).Describes L where
  canBeEmpty := h.canBeEmpty
  exact := h.exact
  heads := h.heads
  tails _ w hw := ((h.tails hn w hw).clean.reduce _).prune
  condition w hw text hwt := by
    have := holdsOf_condition_of_covers (h.tails hn w hw).clean hwt
    simp [Analysis.simplifyTails, holdsOf_conj, h.condition w hw text hwt, this]

/-- A word of the exact set begins and ends with its two outer bytes. -/
theorem Describes.giveUp {set : StringSet} (h : Describes { a with exact := some set } L) :
    (a.giveUp set).Describes L where
  canBeEmpty := h.canBeEmpty
  exact _ hs := by simp [Analysis.giveUp] at hs
  heads _ w hw := by
    rw [heads_giveUp]
    exact ⟨Side.front.keep 2 w, List.mem_append_right _ (List.mem_map_of_mem (h.exact set rfl w hw)),
      Side.front.bounds_keep 2 w⟩
  tails _ w hw := by
    rw [tails_giveUp]
    exact ⟨Side.back.keep 2 w, List.mem_append_right _ (List.mem_map_of_mem (h.exact set rfl w hw)),
      Side.back.bounds_keep 2 w⟩
  condition := h.withExact.condition

theorem Describes.simplify (h : a.Describes L) (limits : Limits) (last : Bool) :
    (a.simplify limits last).Describes L := by
  unfold Analysis.simplify
  split
  · next set hs =>
    obtain ⟨exact, he, rfl⟩ := Option.map_eq_some_iff.mp hs
    have hclean : Describes { a with exact := some (exact.clean .front) } L :=
      { h with
        exact := fun set hset w hw => by
          cases hset
          exact StringSet.mem_clean.mpr (h.exact exact he w hw)
        heads := nofun
        tails := nofun }
    split
    · exact (hclean.giveUp.simplifyHeads rfl limits).simplifyTails rfl limits
    · exact hclean
  · next hs =>
    have hn : a.exact = none := Option.map_eq_none_iff.mp hs
    exact (h.simplifyHeads hn limits).simplifyTails hn limits

/-! ## Leaves -/

theorem describes_nothing : nothing.Describes 0 where
  canBeEmpty h := absurd h (Language.notMem_zero _)
  exact _ _ w hw := absurd hw (Language.notMem_zero w)
  heads _ w hw := absurd hw (Language.notMem_zero w)
  tails _ w hw := absurd hw (Language.notMem_zero w)
  condition w hw := absurd hw (Language.notMem_zero w)

theorem describes_anything (L : Language UInt8) : anything.Describes L where
  canBeEmpty _ := rfl
  exact := nofun
  heads _ w _ := ⟨[], by simp [anything], Side.bounds_nil .front w⟩
  tails _ w _ := ⟨[], by simp [anything], Side.bounds_nil .back w⟩
  condition _ _ text _ := Query.holds_always _

theorem describes_anyCharacter (h : [] ∉ L) : anyCharacter.Describes L :=
  { describes_anything L with canBeEmpty := fun he => absurd he h }

/-- An exact set describes every language whose words it holds. -/
theorem describes_ofExact {set : StringSet} (h : ∀ w ∈ L, w ∈ set) : (ofExact set).Describes L where
  canBeEmpty he := List.any_eq_true.mpr ⟨[], h [] he, rfl⟩
  exact _ hs w hw := by cases hs; exact h w hw
  heads := nofun
  tails := nofun
  condition _ _ text _ := Query.holds_always _

theorem describes_emptyText : emptyText.Describes 1 :=
  describes_ofExact fun w hw => List.mem_singleton.mpr ((Language.mem_one w).mp hw)

theorem describes_literal (bytes : Bytes) : (ofExact [bytes]).Describes {bytes} :=
  describes_ofExact fun _ hw => List.mem_singleton.mpr hw

/-! ## Classes -/

theorem mem_members_of_contains {set : CharSet} {n : Nat} (h : set.contains n = true) :
    n ∈ set.members := by
  obtain ⟨r, hr, hn⟩ := List.any_eq_true.mp h
  simp only [Range.contains, Bool.and_eq_true, decide_eq_true_eq] at hn
  refine List.mem_flatMap.mpr ⟨r, hr, List.mem_map.mpr ⟨n - r.low, ?_, by omega⟩⟩
  exact List.mem_range.mpr (by omega)

/-- Every character of a class is spelled out. -/
theorem mem_strings_of_mem_language {c : CharClass} {w : Bytes} (h : w ∈ c.language) :
    w ∈ c.strings := by
  cases c with
  | chars set =>
    obtain ⟨c, hc, rfl⟩ := h
    have hchar : CharClass.isCharacter c.toNat = true := by
      have := c.valid
      simp only [UInt32.isValidChar, Nat.isValidChar] at this
      simp only [CharClass.isCharacter, Char.toNat, Bool.or_eq_true, Bool.and_eq_true,
        decide_eq_true_eq]
      omega
    refine List.mem_map.mpr ⟨c.toNat, List.mem_filter.mpr ⟨mem_members_of_contains hc, hchar⟩, ?_⟩
    rw [Text.Utf8.encode, Char.ofNat_toNat]
  | bytes set =>
    obtain ⟨b, hb, rfl⟩ := h
    exact List.mem_map.mpr ⟨b.toNat, mem_members_of_contains hb, by simp⟩

/-- What a class spells out has at least one byte. -/
theorem nil_notMem_strings (c : CharClass) : [] ∉ c.strings := by
  intro hnil
  cases c with
  | chars set =>
    obtain ⟨n, -, h⟩ := List.mem_map.mp hnil
    have hlength := congrArg List.length h
    rw [Text.Utf8.encode, String.length_utf8EncodeChar] at hlength
    exact absurd hlength (Char.ofNat n).utf8Size_pos.ne'
  | bytes set =>
    obtain ⟨n, -, h⟩ := List.mem_map.mp hnil
    cases h

theorem nil_notMem_language (c : CharClass) : [] ∉ c.language := fun hnil =>
  nil_notMem_strings c (mem_strings_of_mem_language hnil)

/-- Ranges have at least one number each, so a set of size zero has none. -/
theorem eq_nil_of_size_eq_zero {set : CharSet} (h : set.size = 0) : set = [] := by
  have grows (set : CharSet) (n : Nat) :
      n ≤ set.foldl (fun n r => n + (r.high - r.low + 1)) n := by
    induction set generalizing n with
    | nil => exact Nat.le_refl n
    | cons r set ih => exact Nat.le_trans (Nat.le_add_right n _) (ih _)
  cases set with
  | nil => rfl
  | cons r set =>
    have := grows set (0 + (r.high - r.low + 1))
    simp only [CharSet.size, List.foldl_cons] at h
    omega

theorem strings_eq_nil_of_size_eq_zero {c : CharClass} (h : c.set.size = 0) : c.strings = [] := by
  cases c with
  | chars set =>
    obtain rfl : set = [] := eq_nil_of_size_eq_zero h
    rfl
  | bytes set =>
    obtain rfl : set = [] := eq_nil_of_size_eq_zero h
    rfl

theorem describes_ofClass (limits : Limits) (c : CharClass) :
    (ofClass limits c).Describes c.language := by
  unfold ofClass
  split
  · next h =>
    have hempty : c.language ≤ 0 := fun w hw => by
      have hmem := mem_strings_of_mem_language hw
      rw [strings_eq_nil_of_size_eq_zero h] at hmem
      exact absurd hmem List.not_mem_nil
    exact describes_nothing.mono hempty
  · split
    · exact describes_anyCharacter (nil_notMem_language c)
    · exact describes_ofExact fun w hw => mem_strings_of_mem_language hw

/-! ## Sequences -/

/-- What begins with a string of the left part and goes on with one of the right part begins with a string of the
sequence. -/
theorem covers_concatHeads (hn : x.exact = none ∨ y.exact = none) {u v : Bytes}
    (hexact : ∀ set, x.exact = some set → u ∈ set) (hu : x.exact = none → x.heads.Covers .front u)
    (hv : y.exact = none → y.heads.Covers .front v) : (concatHeads x y).Covers .front (u ++ v) := by
  unfold concatHeads
  split
  · next set hs =>
    -- `x` is exact, so `y` is not: a head of `y` follows a whole word of `x`
    have hyn : y.exact = none := hn.resolve_left (by simp [hs])
    obtain ⟨p, hp, hpv⟩ := hv hyn
    refine ⟨u ++ p, StringSet.mem_cross.mpr ⟨u, hexact set hs, p, hp, rfl⟩, ?_⟩
    exact Side.bounds_front.mpr ((List.prefix_append_right_inj u).mpr (Side.bounds_front.mp hpv))
  · next hs =>
    obtain ⟨p, hp, hpu⟩ := hu hs
    have hpw : Side.front.Bounds p (u ++ v) :=
      Side.bounds_front.mpr ((Side.bounds_front.mp hpu).trans (List.prefix_append u v))
    split
    · exact ⟨p, StringSet.mem_union.mpr (.inl hp), hpw⟩
    · exact ⟨p, hp, hpw⟩

/-- In the same way it ends with one. -/
theorem covers_concatTails (hn : x.exact = none ∨ y.exact = none) {u v : Bytes}
    (hexact : ∀ set, y.exact = some set → v ∈ set) (hu : x.exact = none → x.tails.Covers .back u)
    (hv : y.exact = none → y.tails.Covers .back v) : (concatTails x y).Covers .back (u ++ v) := by
  unfold concatTails
  split
  · next set hs =>
    -- `y` is exact, so `x` is not: a whole word of `y` follows a tail of `x`
    have hxn : x.exact = none := hn.resolve_right (by simp [hs])
    obtain ⟨p, hp, hpu⟩ := hu hxn
    obtain ⟨before, rfl⟩ := Side.bounds_back.mp hpu
    refine ⟨p ++ v, StringSet.mem_cross.mpr ⟨p, hp, v, hexact set hs, rfl⟩, ?_⟩
    exact Side.bounds_back.mpr ⟨before, by simp⟩
  · next hs =>
    obtain ⟨p, hp, hpv⟩ := hv hs
    have hpw : Side.back.Bounds p (u ++ v) :=
      Side.bounds_back.mpr ((Side.bounds_back.mp hpv).trans (List.suffix_append u v))
    split
    · exact ⟨p, StringSet.mem_union.mpr (.inl hp), hpw⟩
    · exact ⟨p, hp, hpw⟩

/-- What straddles the seam stands in the text: a tail of the left word, then a head of the right one. -/
theorem holdsOf_seam (hx : x.Describes L) (hy : y.Describes M) (limits : Limits) {u v text : Bytes}
    (hu : u ∈ L) (hv : v ∈ M) (hw : u ++ v <:+: text) : (seam limits x y).holdsOf text = true := by
  unfold seam
  split
  · next h =>
    simp only [Bool.and_eq_true, Option.isNone_iff_eq_none] at h
    obtain ⟨⟨⟨⟨hxn, hyn⟩, -⟩, -⟩, -⟩ := h
    obtain ⟨s, hs, hsu⟩ := hx.tails hxn u hu
    obtain ⟨p, hp, hpv⟩ := hy.heads hyn v hv
    refine StringSet.holdsOf_condition (StringSet.mem_cross.mpr ⟨s, hs, p, hp, rfl⟩) ?_
    obtain ⟨before, rfl⟩ := Side.bounds_back.mp hsu
    obtain ⟨after, rfl⟩ := Side.bounds_front.mp hpv
    exact List.IsInfix.trans ⟨before, after, by simp⟩ hw
  · exact Query.holds_always _

theorem Describes.concat (hx : x.Describes L) (hy : y.Describes M) (limits : Limits) :
    (concat limits x y).Describes (L * M) := by
  have hempty : [] ∈ L * M → (x.canBeEmpty && y.canBeEmpty) = true := by
    intro h
    obtain ⟨u, hu, v, hv, e⟩ := Language.mem_mul.mp h
    obtain ⟨rfl, rfl⟩ := List.append_eq_nil_iff.mp e
    rw [hx.canBeEmpty hu, hy.canBeEmpty hv, Bool.and_true]
  have hcondition : ∀ w ∈ L * M, ∀ text, w <:+: text →
      ((x.condition.conj y.condition).conj (seam limits x y)).holdsOf text = true := by
    intro w hw text hwt
    obtain ⟨u, hu, v, hv, rfl⟩ := Language.mem_mul.mp hw
    have hut : u <:+: text := (List.prefix_append u v).isInfix.trans hwt
    have hvt : v <:+: text := (List.suffix_append u v).isInfix.trans hwt
    simp [holdsOf_conj, hx.condition u hu text hut, hy.condition v hv text hvt,
      holdsOf_seam hx hy limits hu hv hwt]
  unfold Analysis.concat
  refine Describes.simplify ?_ limits false
  split
  · next xs ys hxs hys =>
    refine ⟨hempty, ?_, nofun, nofun, hcondition⟩
    intro set hs w hw
    cases hs
    obtain ⟨u, hu, v, hv, rfl⟩ := Language.mem_mul.mp hw
    exact StringSet.mem_cross.mpr ⟨u, hx.exact xs hxs u hu, v, hy.exact ys hys v hv, rfl⟩
  · next hboth =>
    have hn : x.exact = none ∨ y.exact = none := exact_eq_none_or hboth
    refine ⟨hempty, nofun, fun _ w hw => ?_, fun _ w hw => ?_, hcondition⟩
    · obtain ⟨u, hu, v, hv, rfl⟩ := Language.mem_mul.mp hw
      exact covers_concatHeads hn (fun set hs => hx.exact set hs u hu) (fun hs => hx.heads hs u hu)
        fun hs => hy.heads hs v hv
    · obtain ⟨u, hu, v, hv, rfl⟩ := Language.mem_mul.mp hw
      exact covers_concatTails hn (fun set hs => hy.exact set hs v hv) (fun hs => hx.tails hs u hu)
        fun hs => hy.tails hs v hv

/-! ## Alternatives -/

theorem Describes.alternate (hx : x.Describes L) (hy : y.Describes M) (limits : Limits) :
    (alternate limits x y).Describes (L + M) := by
  have hempty : [] ∈ L + M → (x.canBeEmpty || y.canBeEmpty) = true := by
    rintro (h | h)
    · rw [hx.canBeEmpty h, Bool.true_or]
    · rw [hy.canBeEmpty h, Bool.or_true]
  -- whichever exact set is taken into its condition, both conditions are still met
  have hor {p q : Query} (hp : ∀ w ∈ L, ∀ text, w <:+: text → p.holdsOf text = true)
      (hq : ∀ w ∈ M, ∀ text, w <:+: text → q.holdsOf text = true) :
      ∀ w ∈ L + M, ∀ text, w <:+: text → (p.disj q).holdsOf text = true := by
    rintro w (hw | hw) text hwt
    · rw [holdsOf_disj, hp w hw text hwt, Bool.true_or]
    · rw [holdsOf_disj, hq w hw text hwt, Bool.or_true]
  unfold Analysis.alternate
  refine Describes.simplify ?_ limits false
  split
  · next xs ys hxs hys =>
    refine ⟨hempty, ?_, nofun, nofun, hor hx.condition hy.condition⟩
    rintro set hs w (hw | hw) <;> cases hs
    · exact StringSet.mem_union.mpr (.inl (hx.exact xs hxs w hw))
    · exact StringSet.mem_union.mpr (.inr (hy.exact ys hys w hw))
  · refine ⟨hempty, nofun, ?_, ?_, ?_⟩
    · rintro - w (hw | hw)
      · exact (hx.beginnings hw).mono fun s hs => StringSet.mem_union.mpr (.inl hs)
      · exact (hy.beginnings hw).mono fun s hs => StringSet.mem_union.mpr (.inr hs)
    · rintro - w (hw | hw)
      · exact (hx.endings hw).mono fun s hs => StringSet.mem_union.mpr (.inl hs)
      · exact (hy.endings hw).mono fun s hs => StringSet.mem_union.mpr (.inr hs)
    · dsimp only
      split
      · exact hor hx.withExact.condition hy.condition
      · split
        · exact hor hx.condition hy.withExact.condition
        · exact hor hx.condition hy.condition

/-! ## Repetitions -/

/-- A word of a power, the zeroth one left aside, begins and ends with a word of the language, and every
condition on texts with a word of the language is met by texts with a word of the power. -/
theorem Describes.repeatedly (h : a.Describes L) {n : Nat} (hn : 0 < n) :
    a.repeatedly.Describes (L ^ n) := by
  obtain ⟨k, rfl⟩ : ∃ k, n = k + 1 := ⟨n - 1, by omega⟩
  -- the power splits at its first factor, and just as well at its last one
  have first {w : Bytes} (hw : w ∈ L ^ (k + 1)) : ∃ u ∈ L, u <+: w := by
    rw [pow_succ'] at hw
    obtain ⟨u, hu, v, -, rfl⟩ := Language.mem_mul.mp hw
    exact ⟨u, hu, List.prefix_append u v⟩
  have final {w : Bytes} (hw : w ∈ L ^ (k + 1)) : ∃ u ∈ L, u <:+ w := by
    rw [pow_succ] at hw
    obtain ⟨u, -, v, hv, rfl⟩ := Language.mem_mul.mp hw
    exact ⟨v, hv, List.suffix_append u v⟩
  have canBeEmpty : [] ∈ L ^ (k + 1) → a.canBeEmpty = true := fun hw => by
    obtain ⟨u, hu, hfront⟩ := first hw
    exact h.canBeEmpty (List.prefix_nil.mp hfront ▸ hu)
  have condition : ∀ w ∈ L ^ (k + 1), ∀ text, w <:+: text → a.condition.holdsOf text = true := by
    intro w hw text hwt
    obtain ⟨u, hu, hfront⟩ := first hw
    exact h.condition u hu text (hfront.isInfix.trans hwt)
  have heads : ∀ w ∈ L ^ (k + 1), a.beginnings.Covers .front w := by
    intro w hw
    obtain ⟨u, hu, hfront⟩ := first hw
    obtain ⟨s, hs, hsu⟩ := h.beginnings hu
    exact ⟨s, hs, hsu.trans (Side.bounds_front.mpr hfront)⟩
  have tails : ∀ w ∈ L ^ (k + 1), a.endings.Covers .back w := by
    intro w hw
    obtain ⟨u, hu, hback⟩ := final hw
    obtain ⟨s, hs, hsu⟩ := h.endings hu
    exact ⟨s, hs, hsu.trans (Side.bounds_back.mpr hback)⟩
  unfold Analysis.repeatedly
  split
  · next set hs =>
    simp only [Analysis.beginnings, Analysis.endings, hs, Option.getD_some] at heads tails
    exact ⟨canBeEmpty, nofun, fun _ => heads, fun _ => tails, condition⟩
  · next hs =>
    simp only [Analysis.beginnings, Analysis.endings, hs, Option.getD_none] at heads tails
    exact ⟨canBeEmpty, by simp [hs], fun _ => heads, fun _ => tails, condition⟩

theorem Describes.ofRepetition (h : a.Describes L) (limits : Limits) (min : Nat) (max : Option Nat) :
    (ofRepetition limits min max a).Describes
      {w | ∃ n, min ≤ n ∧ (∀ m ∈ max, n ≤ m) ∧ w ∈ L ^ n} := by
  unfold Analysis.ofRepetition
  split
  · split
    · next hmax =>
      refine (h.alternate describes_emptyText limits).mono ?_
      rintro w ⟨n, -, hn, hw⟩
      have : n = 0 ∨ n = 1 := by have := hn 1 (by simp [hmax]); omega
      rcases this with rfl | rfl
      · rw [pow_zero] at hw
        exact .inr hw
      · rw [pow_one] at hw
        exact .inl hw
    · exact describes_anything _
  · next hmin =>
    -- all powers are described by one analysis, so their union is
    have hpow {w : Bytes} (hw : ∃ n, min ≤ n ∧ (∀ m ∈ max, n ≤ m) ∧ w ∈ L ^ n) :
        ∃ n, a.repeatedly.Describes (L ^ n) ∧ w ∈ L ^ n := by
      obtain ⟨n, hn, -, hw⟩ := hw
      exact ⟨n, h.repeatedly (by omega), hw⟩
    constructor
    · intro hw
      obtain ⟨n, hd, hw⟩ := hpow hw
      exact hd.canBeEmpty hw
    · intro set hs w hw
      obtain ⟨n, hd, hw⟩ := hpow hw
      exact hd.exact set hs w hw
    · intro hs w hw
      obtain ⟨n, hd, hw⟩ := hpow hw
      exact hd.heads hs w hw
    · intro hs w hw
      obtain ⟨n, hd, hw⟩ := hpow hw
      exact hd.tails hs w hw
    · intro w hw
      obtain ⟨n, hd, hw⟩ := hpow hw
      exact hd.condition w hw

/-! ## Expressions -/

theorem Describes.foldl_concat (limits : Limits) {parts : List Analysis} {Ls : List (Language UInt8)}
    (hparts : List.Forall₂ Describes parts Ls) (h : a.Describes L) :
    (parts.foldl (Analysis.concat limits) a).Describes (L * Ls.prod) := by
  induction hparts generalizing a L with
  | nil => simpa using h
  | cons hpart _ ih =>
    rw [List.foldl_cons, List.prod_cons, ← mul_assoc]
    exact ih (h.concat hpart limits)

theorem Describes.foldl_alternate (limits : Limits) {parts : List Analysis}
    {Ls : List (Language UInt8)} (hparts : List.Forall₂ Describes parts Ls) (h : a.Describes L) :
    (parts.foldl (Analysis.alternate limits) a).Describes (L + Ls.sum) := by
  induction hparts generalizing a L with
  | nil => simpa using h
  | cons hpart _ ih =>
    rw [List.foldl_cons, List.sum_cons, ← add_assoc]
    exact ih (h.alternate hpart limits)

theorem describes_concatAll (limits : Limits) {parts : List Analysis} {Ls : List (Language UInt8)}
    (hparts : List.Forall₂ Describes parts Ls) : (concatAll limits parts).Describes Ls.prod := by
  cases hparts with
  | nil => exact describes_emptyText
  | cons hpart hparts => exact hpart.foldl_concat limits hparts

theorem describes_alternateAll (limits : Limits) {parts : List Analysis} {Ls : List (Language UInt8)}
    (hparts : List.Forall₂ Describes parts Ls) : (alternateAll limits parts).Describes Ls.sum := by
  cases hparts with
  | nil => exact describes_nothing
  | cons hpart hparts => exact hpart.foldl_alternate limits hparts

mutual

/-- The analysis of an expression describes its language. -/
theorem describes_ofRegex (limits : Limits) : (r : Regex) → (ofRegex limits r).Describes r.language
  | .empty => describes_emptyText.simplify limits false
  | .look _ => describes_emptyText.simplify limits false
  | .literal bytes => (describes_literal bytes).simplify limits false
  | .charClass c => (describes_ofClass limits c).simplify limits false
  | .capture _ _ body => (describes_ofRegex limits body).simplify limits false
  | .repeated min max _ body =>
    ((describes_ofRegex limits body).ofRepetition limits min max).simplify limits false
  | .concat parts => by
    rw [ofRegex, Regex.language, Regex.languageAll_eq_prod]
    exact (describes_concatAll limits (describes_ofParts limits parts)).simplify limits false
  | .alternation parts => by
    rw [ofRegex, Regex.language, Regex.languageAny_eq_sum]
    refine Describes.simplify ?_ limits false
    split
    · exact describes_anything _
    · exact describes_alternateAll limits (describes_ofParts limits parts)

/-- The analyses of several expressions describe their languages. -/
theorem describes_ofParts (limits : Limits) :
    (parts : List Regex) → List.Forall₂ Describes (ofParts limits parts) (parts.map Regex.language)
  | [] => .nil
  | part :: parts => .cons (describes_ofRegex limits part) (describes_ofParts limits parts)

end

/-- At the root, too, the analysis describes the language. -/
theorem describes_atRoot (limits : Limits) (r : Regex) :
    ((ofRegex limits r).simplify limits true).withExact.Describes r.language :=
  ((describes_ofRegex limits r).simplify limits true).withExact

end Analysis

/-- The query of an expression holds of every text that has a word of its language in it, whatever the
limits are. -/
theorem Query.holdsOf_ofRegex (limits : Limits) (r : Regex) {w text : Bytes} (hw : w ∈ r.language)
    (h : w <:+: text) : (Query.ofRegex limits r).holdsOf text = true :=
  (Analysis.describes_atRoot limits r).condition w hw text h

/-- A condition on the position, a literal and a repetition of alternatives, under caps so small that almost
all is cut; the word stands within a longer text. -/
theorem Query.holdsOf_ofRegex_repetition :
    let limits : Limits := { maxExact := 1, maxSet := 1, maxClass := 0, maxAlternates := 2 }
    let r : Regex := .concat
      [.look (.lineStart .newline), .literal [1, 2, 3],
        .repeated 1 none true (.alternation [.literal [4], .literal [5]])]
    [1, 2, 3, 5, 4] ∈ r.language ∧
      (Query.ofRegex limits r).holdsOf [9, 1, 2, 3, 5, 4, 9] = true := by
  intro limits r
  have hcopies : [5, 4] ∈ (Regex.repeated 1 none true (.alternation [.literal [4], .literal [5]])).language := by
    refine ⟨2, by decide, nofun, ?_⟩
    rw [pow_two]
    exact Language.mem_mul.mpr ⟨[5], .inr (.inl rfl), [4], .inl rfl, rfl⟩
  have hrow : [5, 4] ∈ Regex.languageAll
      [.repeated 1 none true (.alternation [.literal [4], .literal [5]])] :=
    Language.mem_mul.mpr ⟨[5, 4], hcopies, [], rfl, rfl⟩
  have hword : [1, 2, 3, 5, 4] ∈ r.language :=
    Language.mem_mul.mpr ⟨[], rfl, [1, 2, 3, 5, 4],
      Language.mem_mul.mpr ⟨[1, 2, 3], rfl, [5, 4], hrow, rfl⟩, rfl⟩
  exact ⟨hword, Query.holdsOf_ofRegex limits r hword ⟨[9], [9], rfl⟩⟩

end TrigramGrep
