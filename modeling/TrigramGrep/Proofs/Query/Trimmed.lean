import TrigramGrep.Proofs.Query.Fixpoints

/-!
# What an analysis keeps

Whatever sets an analysis is put together from, those that it keeps are small, and each has one form only.

* An exact set ascends strictly, keeps to its limit and has a string of at most three bytes: a set of longer ones
  would have become trigrams.  As long as there is one, the condition says nothing.
* Beginnings and endings ascend strictly, have at most two bytes each and keep to their limit, a single empty string
  apart, and no one stands at the side of another (`StringSet.IsTrimmed`).  If the empty text may be matched, the
  empty string is all that there is; if there is nothing at all, there is no match.

## Shape of the proof

Pruning compares a string with the one that was kept last, and with no other.  That this is enough is due to the
order: strings that begin with a given one stand right behind it, with no other between them
(`isPrefix_of_between`), so one that is kept ends the run of all that were kept before.
-/

namespace TrigramGrep

/-! ## Order and beginnings -/

/-- Between a string and one that begins with it there are only others that begin with it. -/
theorem isPrefix_of_between {p s t : Bytes} (hps : p ≤ s) (hst : s ≤ t) (h : p <+: t) : p <+: s := by
  induction p generalizing s t with
  | nil => exact List.nil_prefix
  | cons a p ih =>
    obtain ⟨rest, rfl⟩ := h
    cases s with
    | nil => exact absurd (List.le_nil.mp hps) (List.cons_ne_nil a p)
    | cons b s =>
      -- the first byte lies between `a` and `a`
      rcases List.cons_le_cons_iff.mp hps with hab | ⟨rfl, hrest⟩ <;>
        rcases List.cons_le_cons_iff.mp hst with hba | ⟨hba, hst⟩
      · exact absurd hab (UInt8.lt_asymm hba)
      · exact absurd (hba ▸ hab) (UInt8.lt_irrefl a)
      · exact absurd hba (UInt8.lt_irrefl a)
      · exact (List.prefix_cons_inj a).mpr (ih hrest hst (List.prefix_append p rest))

namespace Side

variable {side : Side} {s t u : Bytes}

/-- Strings in the order of a side that differ ascend strictly, read inwards. -/
theorem inwards_lt_iff : side.inwards s < side.inwards t ↔ side.le s t = true ∧ s ≠ t := by
  rw [le, Bytes.le, decide_eq_true_iff, List.le_iff_lt_or_eq]
  constructor
  · intro hlt
    refine ⟨.inl hlt, ?_⟩
    rintro rfl
    exact List.lt_irrefl _ hlt
  · rintro ⟨hlt | heq, hne⟩
    · exact hlt
    · exact absurd (side.inwards_injective heq) hne

/-- What stands at the side of a string does not come behind it. -/
theorem Bounds.not_lt (h : side.Bounds s t) : ¬side.inwards t < side.inwards s :=
  List.IsPrefix.le h

/-- What stands at the side of a string stands at the side of all strings between the two. -/
theorem Bounds.of_between (h : side.Bounds s u) (hst : side.inwards s < side.inwards t)
    (htu : side.inwards t < side.inwards u) : side.Bounds s t :=
  isPrefix_of_between (List.le_of_lt hst) (List.le_of_lt htu) h

end Side

namespace StringSet

variable {side : Side} {set : StringSet}

/-- A set of beginnings or endings in the form in which it is kept. -/
structure IsTrimmed (side : Side) (limit : Nat) (set : StringSet) : Prop where
  /-- It keeps to its limit; where that is zero, there may be one string nevertheless. -/
  length_le : set.length ≤ max limit 1
  /-- Its strings have at most two bytes. -/
  short : ∀ s ∈ set, s.length ≤ 2
  /-- Read from the side inwards, its strings ascend. -/
  ascending : set.Pairwise fun s t => side.inwards s < side.inwards t
  /-- None of its strings stands at the side of another. -/
  apart : ∀ s ∈ set, ∀ t ∈ set, side.Bounds s t → s = t

theorem ascending_of_clean (h : set.clean side = set) :
    set.Pairwise fun s t => side.inwards s < side.inwards t :=
  (h ▸ pairwise_clean side set).imp Side.inwards_lt_iff.mpr

/-- Of a sorted set no string is kept that has one kept before it at its side. -/
theorem pairwise_pruneAfter (kept : Option Bytes)
    (h : (kept.toList ++ set).Pairwise fun s t => side.inwards s < side.inwards t) :
    (kept.toList ++ pruneAfter side kept set).Pairwise fun s t => ¬side.Bounds s t := by
  induction set generalizing kept with
  | nil => cases kept <;> simp [pruneAfter]
  | cons s rest ih =>
    have hrest : (s :: rest).Pairwise fun s t => side.inwards s < side.inwards t :=
      h.sublist (List.sublist_append_right _ _)
    rw [pruneAfter]
    cases kept with
    | none => exact ih (some s) hrest
    | some k =>
      rw [Option.any_some]
      split
      · exact ih (some k) (h.sublist ((List.sublist_cons_self s rest).cons_cons k))
      · next hwithin =>
        refine List.pairwise_cons.mpr ⟨fun t ht hkt => hwithin (Side.isWithin_iff.mpr ?_), ih (some s) hrest⟩
        rcases List.mem_cons.mp ht with rfl | ht
        · exact hkt
        · have ht := mem_of_mem_pruneAfter ht
          exact hkt.of_between (List.rel_of_pairwise_cons h List.mem_cons_self) (List.rel_of_pairwise_cons hrest ht)

/-- A set that is made to fit is trimmed. -/
theorem isTrimmed_fit (side : Side) (limit : Nat) (set : StringSet) : (set.fit side limit).IsTrimmed side limit := by
  have hascending := ascending_of_clean (clean_fit side limit set)
  refine ⟨?_, fun s hs => Nat.le_of_lt_succ (length_lt_of_mem_fit hs), hascending, fun s hs t ht hst => ?_⟩
  · have hle : (set.fit side limit).length ≤ ((set.clean side).reduce side limit).length :=
      (prune_sublist side _).length_le
    rcases reduce_fits side limit (set.clean side) with hfits | hnil
    · exact Nat.le_trans hle (Nat.le_trans hfits (Nat.le_max_left limit 1))
    · rw [hnil] at hle
      exact Nat.le_trans hle (Nat.le_max_right limit 1)
  · have hkept : (set.fit side limit).Pairwise fun s t => ¬side.Bounds s t :=
      pairwise_pruneAfter none (ascending_of_clean (clean_reduce side limit _))
    have hapart : (set.fit side limit).Pairwise fun s t => ¬side.Bounds s t ∧ ¬side.Bounds t s :=
      hkept.imp₂ (fun s t hst hlt => ⟨hst, fun hts => hts.not_lt hlt⟩) hascending
    have hsymm : Std.Symm fun s t => ¬side.Bounds s t ∧ ¬side.Bounds t s := ⟨fun _ _ => And.symm⟩
    by_contra hne
    exact (hapart.forall hs ht hne).1 hst

end StringSet

namespace Analysis

variable {a : Analysis} {limits : Limits}

/-! ## Analyses that have been made to fit -/

/-- A set that is not given up keeps to its limit and has a short string. -/
theorem givesUp_eq_false_iff {last : Bool} {set : StringSet} : givesUp limits last set = false ↔
    set.length ≤ limits.maxExact ∧ (last = true → set.minLength < 3) ∧ set.minLength < 4 := by
  simp only [givesUp, Bool.or_eq_false_iff, Bool.and_eq_false_imp, decide_eq_false_iff_not, Nat.not_lt, Nat.not_le,
    and_assoc]

/-- The exact set of an analysis that fits is not given up. -/
theorem givesUp_of_simplify_eq (hfits : a.simplify limits false = a) {set : StringSet} (he : a.exact = some set) :
    givesUp limits false set = false := by
  have hclean := clean_of_simplify_eq hfits he
  rcases simplify_cases a limits false with ⟨exact, hexact, hgives, -⟩ | ⟨exact, -, heq⟩ | ⟨hn, -⟩
  · cases he.symm.trans hexact
    rwa [hclean] at hgives
  · rw [hfits] at heq
    cases he.symm.trans (congrArg Analysis.exact heq)
  · cases hn.symm.trans he

/-- Beginnings and endings of an analysis that fits are trimmed. -/
theorem isTrimmed_of_simplify_eq (hfits : a.simplify limits false = a) (hn : a.exact = none) (side : Side) :
    (a.strings side).IsTrimmed side limits.maxSet := by
  rw [← fit_strings_of_simplify_eq hfits hn side]
  exact StringSet.isTrimmed_fit side limits.maxSet _

/-! ## Expressions -/

/-- **What an analysis keeps is small and has one form.**  Of any expression, under any limits: an exact set has a
member, ascends strictly, keeps to its limit, has a string of at most three bytes, and leaves the condition empty.
Without an exact set, beginnings and endings are trimmed; they are just the empty string if the empty text may be
matched; and if there are none on a side, the condition says that there is no match. -/
theorem trimmed_ofRegex (limits : Limits) {r : Regex} (hproper : r.hasProperClasses = true) :
    let a := ofRegex limits r
    (∀ set, a.exact = some set →
        set ≠ [] ∧ set.Pairwise (· < ·) ∧ set.length ≤ limits.maxExact ∧ (∃ s ∈ set, s.length ≤ 3) ∧
          a.condition = .always) ∧
      (a.exact = none →
        (a.heads.IsTrimmed .front limits.maxSet ∧ a.tails.IsTrimmed .back limits.maxSet) ∧
          (a.canBeEmpty = true → a.heads = [[]] ∧ a.tails = [[]]) ∧
          (a.heads = [] ∨ a.tails = [] → a.condition = .never)) := by
  intro a
  have hfits := simplify_ofRegex limits r
  have hcoherent := coherent_ofRegex limits r hproper
  have hregular := regular_ofRegex limits r
  refine ⟨fun set he => ?_, fun hn => ⟨⟨?_, ?_⟩, fun hempty => ⟨?_, ?_⟩, ?_⟩⟩
  · obtain ⟨hlength, -, hmin⟩ := givesUp_eq_false_iff.mp (givesUp_of_simplify_eq hfits he)
    have hne := hcoherent.exact_ne_nil set he
    obtain ⟨s, hs, hshortest⟩ := StringSet.exists_length_eq_minLength hne
    exact ⟨hne, StringSet.ascending_of_clean (clean_of_simplify_eq hfits he), hlength, ⟨s, hs, by omega⟩,
      hcoherent.condition_of_exact set he⟩
  · exact strings_front hn ▸ isTrimmed_of_simplify_eq hfits hn .front
  · exact strings_back hn ▸ isTrimmed_of_simplify_eq hfits hn .back
  · exact strings_front hn ▸ strings_of_canBeEmpty hregular hfits hn hempty .front
  · exact strings_back hn ▸ strings_of_canBeEmpty hregular hfits hn hempty .back
  · rintro (hheads | htails)
    · exact hcoherent.condition_of_no_heads hn hheads
    · exact hcoherent.condition_of_no_tails hn htails

/-- Three alternatives begin with `ab`, `ac` and `xy`, one beginning too many for the limit, and each is cut to one
byte.  The class of two characters alone is exact. -/
theorem trimmed_ofRegex_cut :
    let limits : Limits := { maxSet := 2 }
    let anyBytes : Regex := .repeated 0 none true (.charClass (.bytes [⟨0, 255⟩]))
    let long : Regex := .alternation
      [.concat [.literal [97, 98], anyBytes], .concat [.literal [97, 99], anyBytes],
        .concat [.literal [120, 121], anyBytes]]
    let short : Regex := .charClass (.chars [⟨98, 99⟩])
    (long.hasProperClasses = true ∧ (ofRegex limits long).exact = none ∧
        (ofRegex limits long).heads = [[97], [120]] ∧ (ofRegex limits long).heads.IsTrimmed .front 2) ∧
      short.hasProperClasses = true ∧ (ofRegex limits short).exact = some [[98], [99]] ∧
        (ofRegex limits short).condition = .always := by
  intro limits anyBytes long short
  have hlong : long.hasProperClasses = true := by decide
  have hshort : short.hasProperClasses = true := by decide
  have hnone : (ofRegex limits long).exact = none := by cbv
  have hheads : (ofRegex limits long).heads = [[97], [120]] := by cbv
  have hexact : (ofRegex limits short).exact = some [[98], [99]] := by cbv
  refine ⟨⟨hlong, hnone, hheads, ?_⟩, hshort, hexact, ?_⟩
  · exact ((trimmed_ofRegex limits hlong).2 hnone).1.1
  · exact ((trimmed_ofRegex limits hshort).1 _ hexact).2.2.2.2

end Analysis

end TrigramGrep
