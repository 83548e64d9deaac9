import TrigramGrep.Proofs.Query.StringSets
import TrigramGrep.Query.OfRegex

/-!
# What the parts of an analysis have to do with one another

An analysis says the same thing in several places, and while it is built these places stay in step.

* As long as the set of all matched texts is known, it has a member, and nothing has been put into the condition,
  the beginnings or the endings yet.  Once it is given up, beginnings and endings take its place; there are none of
  them only if there is no match, and then the condition says so, too (`Analysis.Coherent`).
* What is left of beginnings and endings when an analysis has been made to fit gives no trigram any more
  (`Analysis.Compact`): all that they say has gone into the condition.

Every analysis of an expression has both properties, whatever the limits are.  For the first one the classes of
the expression have to be made of characters or bytes: a range that spans nothing but surrogates is not empty
and has no string.
-/

namespace TrigramGrep

namespace Query

@[simp] theorem never_conj (q : Query) : conj .never q = .never := by cases q <;> rfl

@[simp] theorem conj_never (q : Query) : conj q .never = .never := by cases q <;> rfl

@[simp] theorem always_conj (q : Query) : conj .always q = q := by cases q <;> rfl

@[simp] theorem conj_always (q : Query) : conj q .always = q := by cases q <;> rfl

@[simp] theorem always_disj (q : Query) : disj .always q = .always := by cases q <;> rfl

@[simp] theorem disj_always (q : Query) : disj q .always = .always := by cases q <;> rfl

@[simp] theorem never_disj (q : Query) : disj .never q = q := by cases q <;> rfl

end Query

namespace StringSet

variable {side : Side} {set : StringSet}

/-! ## Sets that lose no string for nothing -/

theorem ne_nil_of_covers {text : Bytes} (h : set.Covers side text) : set ≠ [] := by
  obtain ⟨s, hs, -⟩ := h
  exact List.ne_nil_of_mem hs

/-- Strings of one set stand in front of those of another, if there are any of both. -/
theorem cross_ne_nil {xs ys : StringSet} (hxs : xs ≠ []) (hys : ys ≠ []) : cross side xs ys ≠ [] := by
  obtain ⟨u, hu⟩ := List.exists_mem_of_ne_nil xs hxs
  obtain ⟨v, hv⟩ := List.exists_mem_of_ne_nil ys hys
  exact List.ne_nil_of_mem (mem_cross.mpr ⟨u, hu, v, hv, rfl⟩)

theorem clean_eq_nil_iff : set.clean side = [] ↔ set = [] := by
  simp only [List.eq_nil_iff_forall_not_mem, mem_clean]

/-- A set that is made to fit keeps a string at the side of each of its strings, so only the empty set becomes
empty. -/
theorem eq_nil_of_prune_reduce {limit : Nat}
    (h : ((set.clean side).reduce side limit).prune side = []) : set = [] := by
  cases set with
  | nil => rfl
  | cons s set =>
    have hcovers : Covers side (s :: set) s := .of_mem List.mem_cons_self
    exact absurd h (ne_nil_of_covers (hcovers.clean.reduce limit).prune)

theorem mem_of_mem_pruneAfter {kept : Option Bytes} {s : Bytes} (h : s ∈ pruneAfter side kept set) :
    s ∈ set := by
  induction set generalizing kept with
  | nil => exact absurd h List.not_mem_nil
  | cons first rest ih =>
    rw [pruneAfter] at h
    split at h
    · exact List.mem_cons_of_mem first (ih h)
    · rcases List.mem_cons.mp h with rfl | h
      · exact List.mem_cons_self
      · exact List.mem_cons_of_mem first (ih h)

theorem length_keep_le (side : Side) (length : Nat) (s : Bytes) : (side.keep length s).length ≤ length := by
  cases side with
  | front => exact List.length_take_le length s
  | back => rw [Side.keep, List.length_drop]; omega

theorem length_le_of_mem_shorten {length : Nat} {s : Bytes} (h : s ∈ set.shorten side length) :
    s.length ≤ length := by
  obtain ⟨t, -, rfl⟩ := List.mem_map.mp (mem_clean.mp h)
  exact length_keep_le side length t

/-- However many strings a set may have, they are cut to two bytes at least. -/
theorem length_lt_of_mem_reduce {limit : Nat} {s : Bytes} (h : s ∈ set.reduce side limit) :
    s.length < 3 := by
  unfold reduce at h
  dsimp only at h
  split at h
  · exact Nat.lt_succ_of_le (length_le_of_mem_shorten h)
  · split at h <;> exact Nat.lt_of_le_of_lt (length_le_of_mem_shorten h) (by decide)

/-! ## Sets without a condition -/

/-- The shortest string of a set is no longer than any other. -/
theorem minLength_le {s : Bytes} (h : s ∈ set) : set.minLength ≤ s.length := by
  have hmem : s.length ∈ set.map List.length := List.mem_map_of_mem h
  rw [minLength, List.min?_eq_some_min (List.ne_nil_of_mem hmem)]
  exact List.min_le_of_mem hmem

/-- And it is one of them. -/
theorem exists_length_eq_minLength (h : set ≠ []) : ∃ s ∈ set, s.length = set.minLength := by
  have hne : set.map List.length ≠ [] := fun hnil => h (List.map_eq_nil_iff.mp hnil)
  have hmin := List.min?_eq_some_min hne
  obtain ⟨s, hs, heq⟩ := List.mem_map.mp (List.min?_mem hmin)
  exact ⟨s, hs, by rw [heq, minLength, hmin, Option.getD_some]⟩

/-- A set with a string that is too short for a trigram gives no condition. -/
theorem condition_of_short {s : Bytes} (h : s ∈ set) (hs : s.length < 3) : set.condition = .always :=
  if_pos (Nat.lt_of_le_of_lt (minLength_le h) hs)

theorem condition_nil : condition [] = .always := rfl

theorem condition_of_forall_short (h : ∀ s ∈ set, s.length < 3) : set.condition = .always := by
  cases set with
  | nil => exact condition_nil
  | cons s set => exact condition_of_short List.mem_cons_self (h s List.mem_cons_self)

end StringSet

namespace Analysis

variable {a x y : Analysis}

/-- Of two analyses that are not both exact, one is not. -/
theorem exact_eq_none_or
    (h : ∀ xs ys : StringSet, x.exact = some xs → y.exact = some ys → False) :
    x.exact = none ∨ y.exact = none := by
  cases hxs : x.exact with
  | none => exact .inl rfl
  | some xs =>
    cases hys : y.exact with
    | none => exact .inr rfl
    | some ys => exact (h xs ys hxs hys).elim

/-! ## Sets that are given up, and joined analyses before they are made to fit -/

/-- Of a set that is given up the first two bytes of each string become beginnings. -/
theorem heads_giveUp (a : Analysis) (set : StringSet) :
    (a.giveUp set).heads = a.heads ++ set.map (Side.front.keep 2) :=
  congrArg (a.heads ++ set.map ·) (funext (Side.front.ite_keep 2))

/-- The last two bytes become endings. -/
theorem tails_giveUp (a : Analysis) (set : StringSet) :
    (a.giveUp set).tails = a.tails ++ set.map (Side.back.keep 2) :=
  congrArg (a.tails ++ set.map ·) (funext (Side.back.ite_keep 2))

/-- The analysis of two parts in sequence, whatever its size. -/
def sequence (limits : Limits) (x y : Analysis) : Analysis :=
  let condition := (x.condition.conj y.condition).conj (seam limits x y)
  let canBeEmpty := x.canBeEmpty && y.canBeEmpty
  match x.exact, y.exact with
  | some xs, some ys =>
    { canBeEmpty, condition, exact := some (StringSet.cross .front xs ys), heads := [], tails := [] }
  | _, _ =>
    { canBeEmpty, condition, exact := none, heads := concatHeads x y, tails := concatTails x y }

theorem concat_eq_simplify (limits : Limits) (x y : Analysis) :
    concat limits x y = (sequence limits x y).simplify limits false := rfl

/-- The analysis of two alternatives, whatever its size. -/
def alternatives (x y : Analysis) : Analysis :=
  let canBeEmpty := x.canBeEmpty || y.canBeEmpty
  match x.exact, y.exact with
  | some xs, some ys =>
    { canBeEmpty, condition := x.condition.disj y.condition,
      exact := some (StringSet.union .front xs ys), heads := [], tails := [] }
  | _, _ =>
    { canBeEmpty
      condition :=
        if x.exact.isSome then x.withExact.condition.disj y.condition
        else if y.exact.isSome then x.condition.disj y.withExact.condition
        else x.condition.disj y.condition
      exact := none
      heads := StringSet.union .front x.beginnings y.beginnings
      tails := StringSet.union .back x.endings y.endings }

theorem alternate_eq_simplify (limits : Limits) (x y : Analysis) :
    alternate limits x y = (alternatives x y).simplify limits false := rfl

/-! ## Coherent analyses -/

/-- A set of all matched texts has a member and stands alone: there is nothing in the condition, and there are no
other beginnings or endings.  Without it, no beginnings or no endings mean no match. -/
structure Coherent (a : Analysis) : Prop where
  exact_ne_nil : ∀ set, a.exact = some set → set ≠ []
  condition_of_exact : ∀ set, a.exact = some set → a.condition = .always
  heads_of_exact : ∀ set, a.exact = some set → a.heads = []
  tails_of_exact : ∀ set, a.exact = some set → a.tails = []
  condition_of_no_heads : a.exact = none → a.heads = [] → a.condition = .never
  condition_of_no_tails : a.exact = none → a.tails = [] → a.condition = .never

/-- What has to be shown of an analysis that knows the set of all matched texts. -/
theorem Coherent.of_some {set : StringSet} (he : a.exact = some set) (hset : set ≠ [])
    (hcondition : a.condition = .always) (hheads : a.heads = []) (htails : a.tails = []) : a.Coherent where
  exact_ne_nil other hother := by cases he.symm.trans hother; exact hset
  condition_of_exact _ _ := hcondition
  heads_of_exact _ _ := hheads
  tails_of_exact _ _ := htails
  condition_of_no_heads hn := by cases he.symm.trans hn
  condition_of_no_tails hn := by cases he.symm.trans hn

/-- What has to be shown of an analysis that does not know it. -/
theorem Coherent.of_none (hn : a.exact = none) (hheads : a.heads = [] → a.condition = .never)
    (htails : a.tails = [] → a.condition = .never) : a.Coherent where
  exact_ne_nil set hset := by cases hn.symm.trans hset
  condition_of_exact set hset := by cases hn.symm.trans hset
  heads_of_exact set hset := by cases hn.symm.trans hset
  tails_of_exact set hset := by cases hn.symm.trans hset
  condition_of_no_heads _ := hheads
  condition_of_no_tails _ := htails

namespace Coherent

theorem heads_ne_nil (h : a.Coherent) (hn : a.exact = none) (hmatch : a.condition ≠ .never) :
    a.heads ≠ [] :=
  fun hnil => hmatch (h.condition_of_no_heads hn hnil)

theorem tails_ne_nil (h : a.Coherent) (hn : a.exact = none) (hmatch : a.condition ≠ .never) :
    a.tails ≠ [] :=
  fun hnil => hmatch (h.condition_of_no_tails hn hnil)

/-- An analysis without beginnings or without endings is not exact and tells of no match. -/
theorem eq_never_of_nil (h : a.Coherent) (hnil : a.beginnings = [] ∨ a.endings = []) :
    a.condition = .never ∧ a.exact = none := by
  unfold Analysis.beginnings Analysis.endings at hnil
  cases he : a.exact with
  | none =>
    rw [he] at hnil
    rcases hnil with hnil | hnil
    · exact ⟨h.condition_of_no_heads he hnil, rfl⟩
    · exact ⟨h.condition_of_no_tails he hnil, rfl⟩
  | some set =>
    rw [he] at hnil
    exact absurd (hnil.elim id id) (h.exact_ne_nil set he)

/-! ### Making an analysis fit -/

/-- Beginnings and endings are made to fit, and a condition that says that there is no match is kept. -/
theorem simplifyBoth (h : a.Coherent) (hn : a.exact = none) (limits : Limits) :
    (simplifyTails limits (simplifyHeads limits a)).Coherent := by
  refine .of_none hn (fun hnil => ?_) fun hnil => ?_
  · have hcondition := h.condition_of_no_heads hn (StringSet.eq_nil_of_prune_reduce hnil)
    simp [simplifyTails, simplifyHeads, hcondition]
  · have hcondition := h.condition_of_no_tails hn (StringSet.eq_nil_of_prune_reduce hnil)
    simp [simplifyTails, simplifyHeads, hcondition]

/-- The strings of a set that is given up are the new beginnings and endings. -/
theorem giveUp (a : Analysis) {set : StringSet} (hset : set ≠ []) : (a.giveUp set).Coherent := by
  refine .of_none rfl (fun hnil => absurd ?_ hset) fun hnil => absurd ?_ hset
  · exact List.map_eq_nil_iff.mp (List.append_eq_nil_iff.mp hnil).2
  · exact List.map_eq_nil_iff.mp (List.append_eq_nil_iff.mp hnil).2

theorem simplify (h : a.Coherent) (limits : Limits) (last : Bool) : (a.simplify limits last).Coherent := by
  unfold Analysis.simplify
  split
  · next set hs =>
    obtain ⟨exact, he, rfl⟩ := Option.map_eq_some_iff.mp hs
    have hne : exact.clean .front ≠ [] := fun hnil =>
      h.exact_ne_nil exact he (StringSet.clean_eq_nil_iff.mp hnil)
    split
    · exact (Coherent.giveUp a hne).simplifyBoth rfl limits
    · exact .of_some rfl hne (h.condition_of_exact exact he) (h.heads_of_exact exact he) (h.tails_of_exact exact he)
  · next hs => exact h.simplifyBoth (Option.map_eq_none_iff.mp hs) limits

/-! ### Sequences and alternatives -/

theorem concatHeads_ne_nil (hx : x.Coherent) (hy : y.Coherent) (hn : x.exact = none ∨ y.exact = none)
    (hxm : x.condition ≠ .never) (hym : y.condition ≠ .never) : concatHeads x y ≠ [] := by
  unfold concatHeads
  split
  · next xs hxs =>
    have hyn : y.exact = none := hn.resolve_left (by simp [hxs])
    exact StringSet.cross_ne_nil (hx.exact_ne_nil xs hxs) (hy.heads_ne_nil hyn hym)
  · next hxn =>
    obtain ⟨p, hp⟩ := List.exists_mem_of_ne_nil _ (hx.heads_ne_nil hxn hxm)
    split
    · exact List.ne_nil_of_mem (StringSet.mem_union.mpr (.inl hp))
    · exact List.ne_nil_of_mem hp

theorem concatTails_ne_nil (hx : x.Coherent) (hy : y.Coherent) (hn : x.exact = none ∨ y.exact = none)
    (hxm : x.condition ≠ .never) (hym : y.condition ≠ .never) : concatTails x y ≠ [] := by
  unfold concatTails
  split
  · next ys hys =>
    have hxn : x.exact = none := hn.resolve_right (by simp [hys])
    exact StringSet.cross_ne_nil (hx.tails_ne_nil hxn hxm) (hy.exact_ne_nil ys hys)
  · next hyn =>
    obtain ⟨p, hp⟩ := List.exists_mem_of_ne_nil _ (hy.tails_ne_nil hyn hym)
    split
    · exact List.ne_nil_of_mem (StringSet.mem_union.mpr (.inl hp))
    · exact List.ne_nil_of_mem hp

/-- A sequence has no match if one of its parts has none. -/
theorem concat_condition_eq_never (limits : Limits) (h : x.condition = .never ∨ y.condition = .never) :
    (x.condition.conj y.condition).conj (seam limits x y) = .never := by
  rcases h with h | h <;> simp [h]

theorem sequence (hx : x.Coherent) (hy : y.Coherent) (limits : Limits) :
    (sequence limits x y).Coherent := by
  unfold Analysis.sequence
  split
  · next xs ys hxs hys =>
    refine .of_some rfl (StringSet.cross_ne_nil (hx.exact_ne_nil xs hxs) (hy.exact_ne_nil ys hys)) ?_ rfl rfl
    simp [hx.condition_of_exact xs hxs, hy.condition_of_exact ys hys, seam, hxs]
  · next hboth =>
    have hn := exact_eq_none_or hboth
    by_cases hmatch : x.condition = .never ∨ y.condition = .never
    · have hnever := concat_condition_eq_never limits hmatch
      exact .of_none rfl (fun _ => hnever) fun _ => hnever
    · obtain ⟨hxm, hym⟩ := not_or.mp hmatch
      exact .of_none rfl (fun hnil => absurd hnil (hx.concatHeads_ne_nil hy hn hxm hym))
        fun hnil => absurd hnil (hx.concatTails_ne_nil hy hn hxm hym)

theorem concat (hx : x.Coherent) (hy : y.Coherent) (limits : Limits) : (concat limits x y).Coherent :=
  (hx.sequence hy limits).simplify limits false

/-- Alternatives of which none has a match have none. -/
theorem alternatives (hx : x.Coherent) (hy : y.Coherent) : (alternatives x y).Coherent := by
  unfold Analysis.alternatives
  split
  · next xs ys hxs hys =>
    refine .of_some rfl ?_ ?_ rfl rfl
    · obtain ⟨u, hu⟩ := List.exists_mem_of_ne_nil xs (hx.exact_ne_nil xs hxs)
      exact List.ne_nil_of_mem (StringSet.mem_union.mpr (.inl hu))
    · rw [hx.condition_of_exact xs hxs, Query.always_disj]
  · -- without beginnings both parts are inexact, and neither has a match
    have hnever (h : x.beginnings = [] ∧ y.beginnings = [] ∨ x.endings = [] ∧ y.endings = []) :
        (if x.exact.isSome then x.withExact.condition.disj y.condition
          else if y.exact.isSome then x.condition.disj y.withExact.condition
          else x.condition.disj y.condition) = .never := by
      have hxc : x.condition = .never ∧ x.exact = none := hx.eq_never_of_nil (h.imp And.left And.left)
      have hyc : y.condition = .never ∧ y.exact = none := hy.eq_never_of_nil (h.imp And.right And.right)
      simp [hxc, hyc]
    refine .of_none rfl (fun hnil => hnever (.inl ?_)) fun hnil => hnever (.inr ?_)
    · exact List.append_eq_nil_iff.mp (StringSet.clean_eq_nil_iff.mp hnil)
    · exact List.append_eq_nil_iff.mp (StringSet.clean_eq_nil_iff.mp hnil)

theorem alternate (hx : x.Coherent) (hy : y.Coherent) (limits : Limits) : (alternate limits x y).Coherent :=
  (hx.alternatives hy).simplify limits false

theorem repeatedly (h : a.Coherent) : a.repeatedly.Coherent := by
  unfold Analysis.repeatedly
  split
  · next set hs =>
    have hne := h.exact_ne_nil set hs
    exact .of_none rfl (fun hnil => absurd hnil hne) fun hnil => absurd hnil hne
  · exact h

end Coherent

/-! ### Leaves -/

theorem coherent_nothing : nothing.Coherent := .of_none rfl (fun _ => rfl) fun _ => rfl

theorem coherent_anyCharacter : anyCharacter.Coherent := .of_none rfl nofun nofun

theorem coherent_anything : anything.Coherent := .of_none rfl nofun nofun

theorem coherent_ofExact {set : StringSet} (h : set ≠ []) : (ofExact set).Coherent := .of_some rfl h rfl rfl rfl

theorem coherent_emptyText : emptyText.Coherent := coherent_ofExact (List.cons_ne_nil [] [])

end Analysis

/-! ## Classes of characters and of bytes -/

/-- Whether the ranges of a class lead from one character, or one byte, up to another. -/
def CharClass.isProper : CharClass → Bool
  | .chars set => set.all fun r => isCharacter r.low && isCharacter r.high && decide (r.low ≤ r.high)
  | .bytes set => set.all fun r => decide (r.low ≤ r.high) && decide (r.high ≤ 255)

/-- Whether all classes of an expression are proper. -/
def Regex.hasProperClasses (r : Regex) : Bool :=
  r.all fun
    | .charClass c => c.isProper
    | _ => true

/-- The lower end of a range is one of its members. -/
theorem CharSet.low_mem_members {set : CharSet} {r : Range} (h : r ∈ set) : r.low ∈ set.members :=
  List.mem_flatMap.mpr ⟨r, h, List.mem_map.mpr ⟨0, List.mem_range.mpr (Nat.succ_pos _), rfl⟩⟩

/-- A proper class spells something out unless it has no range at all. -/
theorem CharClass.strings_ne_nil {c : CharClass} (h : c.isProper = true) (hc : c.set.size ≠ 0) :
    c.strings ≠ [] := by
  cases c with
  | chars set =>
    obtain ⟨r, hr⟩ := List.exists_mem_of_ne_nil set fun hnil => hc (by rw [CharClass.set, hnil]; rfl)
    have hlow : isCharacter r.low = true := by
      have := List.all_eq_true.mp h r hr
      simp only [Bool.and_eq_true] at this
      exact this.1.1
    exact List.ne_nil_of_mem
      (List.mem_map_of_mem (List.mem_filter.mpr ⟨CharSet.low_mem_members hr, hlow⟩))
  | bytes set =>
    obtain ⟨r, hr⟩ := List.exists_mem_of_ne_nil set fun hnil => hc (by rw [CharClass.set, hnil]; rfl)
    exact List.ne_nil_of_mem (List.mem_map_of_mem (CharSet.low_mem_members hr))

namespace Analysis

theorem coherent_ofClass (limits : Limits) {c : CharClass} (h : c.isProper = true) :
    (ofClass limits c).Coherent := by
  unfold ofClass
  split
  · exact coherent_nothing
  · next hsize =>
    split
    · exact coherent_anyCharacter
    · exact coherent_ofExact (CharClass.strings_ne_nil h hsize)

theorem Coherent.ofRepetition {a : Analysis} (h : a.Coherent) (limits : Limits) (min : Nat)
    (max : Option Nat) : (ofRepetition limits min max a).Coherent := by
  unfold Analysis.ofRepetition
  split
  · split
    · exact h.alternate coherent_emptyText limits
    · exact coherent_anything
  · exact h.repeatedly

/-! ## Expressions -/

theorem coherent_concatAll (limits : Limits) {parts : List Analysis}
    (hparts : ∀ part ∈ parts, Coherent part) : (concatAll limits parts).Coherent := by
  cases parts with
  | nil => exact coherent_emptyText
  | cons part parts =>
    obtain ⟨hpart, hparts⟩ := List.forall_mem_cons.mp hparts
    exact List.foldlRecOn parts _ hpart fun x hx y hy => hx.concat (hparts y hy) limits

theorem coherent_alternateAll (limits : Limits) {parts : List Analysis}
    (hparts : ∀ part ∈ parts, Coherent part) : (alternateAll limits parts).Coherent := by
  cases parts with
  | nil => exact coherent_nothing
  | cons part parts =>
    obtain ⟨hpart, hparts⟩ := List.forall_mem_cons.mp hparts
    exact List.foldlRecOn parts _ hpart fun x hx y hy => hx.alternate (hparts y hy) limits

theorem ofParts_eq_map (limits : Limits) (parts : List Regex) :
    ofParts limits parts = parts.map (ofRegex limits) := by
  induction parts with
  | nil => rfl
  | cons part parts ih => rw [ofParts, ih, List.map_cons]

mutual

/-- The analysis of an expression is coherent. -/
theorem coherent_ofRegex (limits : Limits) : (r : Regex) → r.hasProperClasses = true →
    (ofRegex limits r).Coherent
  | .empty, _ => coherent_emptyText.simplify limits false
  | .look _, _ => coherent_emptyText.simplify limits false
  | .literal bytes, _ => (coherent_ofExact (List.cons_ne_nil bytes [])).simplify limits false
  | .charClass _, h => (coherent_ofClass limits h).simplify limits false
  | .capture _ _ body, h => (coherent_ofRegex limits body h).simplify limits false
  | .repeated min max _ body, h =>
    ((coherent_ofRegex limits body h).ofRepetition limits min max).simplify limits false
  | .concat parts, h => by
    rw [ofRegex]
    exact (coherent_concatAll limits (coherent_ofParts limits parts h)).simplify limits false
  | .alternation parts, h => by
    rw [ofRegex]
    refine Coherent.simplify ?_ limits false
    split
    · exact coherent_anything
    · exact coherent_alternateAll limits (coherent_ofParts limits parts h)

/-- The analyses of several expressions are coherent. -/
theorem coherent_ofParts (limits : Limits) : (parts : List Regex) →
    Regex.allOf (fun | .charClass c => c.isProper | _ => true) parts = true →
    ∀ part ∈ ofParts limits parts, Coherent part
  | [], _ => nofun
  | part :: parts, h => by
    obtain ⟨hpart, hparts⟩ := Bool.and_eq_true_iff.mp h
    intro a ha
    rcases List.mem_cons.mp ha with rfl | ha
    · exact coherent_ofRegex limits part hpart
    · exact coherent_ofParts limits parts hparts a ha

end

/-! ## Compact analyses -/

/-- Beginnings and endings are too short to give a trigram. -/
structure Compact (a : Analysis) : Prop where
  heads : a.exact = none → ∀ s ∈ a.heads, s.length < 3
  tails : a.exact = none → ∀ s ∈ a.tails, s.length < 3

/-- An analysis that has been made to fit is compact, whatever it was before. -/
theorem compact_simplify (limits : Limits) (last : Bool) (a : Analysis) :
    (a.simplify limits last).Compact := by
  have hboth (a : Analysis) : (simplifyTails limits (simplifyHeads limits a)).Compact :=
    ⟨fun _ _ hs => StringSet.length_lt_of_mem_reduce (StringSet.mem_of_mem_pruneAfter hs),
      fun _ _ hs => StringSet.length_lt_of_mem_reduce (StringSet.mem_of_mem_pruneAfter hs)⟩
  unfold Analysis.simplify
  split
  · split
    · exact hboth _
    · exact ⟨nofun, nofun⟩
  · exact hboth _

/-- The analysis of an expression is compact. -/
theorem compact_ofRegex (limits : Limits) (r : Regex) : (ofRegex limits r).Compact := by
  cases r <;> exact compact_simplify limits false _

end Analysis

end TrigramGrep
