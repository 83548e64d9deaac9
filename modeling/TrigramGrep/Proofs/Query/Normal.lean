import TrigramGrep.Proofs.Query.Derived
import TrigramGrep.Proofs.Query.Mentioned

/-!
# Queries in normal form

A query is in normal form when it is a constant, a trigram, or a node with at least two parts, all different,
each of which is a trigram or a normal node of the other kind (`Query.isNormal`).  `conj` and `disj` are two
cases of one operation (`Query.Kind.join`), so everything is shown of both at once.

## Shape of the proof

Apart from the constant that ends it all, a normal query is known by the list of the parts that it joins: no part
for the constant that joins nothing, the query alone for a single part, and the parts of a node for more of them
(`Kind.spine`, with `Kind.ofSpine` back).  On these lists joining is to write one behind the other and to drop
repeats (`Kind.join_eq_ofSpine`).  That the result is normal again, that the order of joining does not matter and
that nothing is joined twice are facts about such lists.
-/

namespace TrigramGrep.Query

/-! ## Lists of parts -/

section

variable {parts others : List Query} {as bs cs : List Query}

theorem addPart_of_mem {part : Query} (h : part ∈ parts) : addPart parts part = parts := if_pos h

/-- Parts that are there already add nothing. -/
theorem foldl_addPart_of_forall_mem (h : ∀ part ∈ others, part ∈ parts) : others.foldl addPart parts = parts := by
  induction others with
  | nil => rfl
  | cons part others ih =>
    obtain ⟨hpart, hothers⟩ := List.forall_mem_cons.mp h
    rw [List.foldl_cons, addPart_of_mem hpart, ih hothers]

/-- New parts that differ from one another are all added. -/
theorem foldl_addPart_of_nodup (h : (parts ++ others).Nodup) : others.foldl addPart parts = parts ++ others := by
  induction others generalizing parts with
  | nil => rw [List.foldl_nil, List.append_nil]
  | cons part others ih =>
    have hnew : part ∉ parts := fun hmem => (List.nodup_append.mp h).2.2 part hmem part List.mem_cons_self rfl
    rw [List.append_cons] at h
    rw [List.foldl_cons, addPart, if_neg hnew, ih h, List.append_assoc, List.singleton_append]

theorem nodup_foldl_addPart (h : parts.Nodup) (others : List Query) : (others.foldl addPart parts).Nodup := by
  induction others generalizing parts with
  | nil => exact h
  | cons part others ih =>
    rw [List.foldl_cons]
    refine ih ?_
    unfold addPart
    split
    · exact h
    · next hnew => exact List.nodup_append.mpr ⟨h, by simp, by grind⟩

/-- Repeats may be dropped from what is added before it is added. -/
theorem foldl_addPart_foldl_addPart (kept parts others : List Query) :
    (others.foldl addPart parts).foldl addPart kept = (parts ++ others).foldl addPart kept := by
  induction others generalizing parts with
  | nil => rw [List.foldl_nil, List.append_nil]
  | cons part others ih =>
    rw [List.foldl_cons, ih, addPart]
    split
    · next hmem =>
      have hkept : part ∈ parts.foldl addPart kept := (mem_foldl_addPart part kept parts).mpr (.inr hmem)
      rw [List.foldl_append, List.foldl_append, List.foldl_cons, addPart_of_mem hkept]
    · rw [List.append_assoc, List.singleton_append]

theorem foldl_addPart_nil (h : parts.Nodup) : parts.foldl addPart [] = parts :=
  have hempty : ([] ++ parts).Nodup := h
  foldl_addPart_of_nodup hempty

theorem nodup_mergeParts (as bs : List Query) : (mergeParts as bs).Nodup :=
  nodup_foldl_addPart List.nodup_nil _

theorem nil_mergeParts (h : bs.Nodup) : mergeParts [] bs = bs := foldl_addPart_nil h

theorem mergeParts_nil (h : as.Nodup) : mergeParts as [] = as := by
  rw [mergeParts, List.append_nil, foldl_addPart_nil h]

theorem mergeParts_self (h : as.Nodup) : mergeParts as as = as := by
  rw [mergeParts, List.foldl_append, foldl_addPart_nil h, foldl_addPart_of_forall_mem fun _ hpart => hpart]

theorem mergeParts_assoc (as bs cs : List Query) :
    mergeParts (mergeParts as bs) cs = mergeParts as (mergeParts bs cs) := by
  have hmerge (kept xs ys : List Query) : (mergeParts xs ys).foldl addPart kept = (xs ++ ys).foldl addPart kept :=
    foldl_addPart_foldl_addPart kept [] (xs ++ ys)
  calc mergeParts (mergeParts as bs) cs
      = cs.foldl addPart ((mergeParts as bs).foldl addPart []) := List.foldl_append
    _ = cs.foldl addPart (bs.foldl addPart (as.foldl addPart [])) := by rw [hmerge, List.foldl_append]
    _ = (mergeParts bs cs).foldl addPart (as.foldl addPart []) := by rw [hmerge, List.foldl_append]
    _ = mergeParts as (mergeParts bs cs) := List.foldl_append.symm

end

/-! ## Both operations as one -/

/-- The two kinds of nodes. -/
inductive Kind where
  | all
  | any
  deriving DecidableEq, Repr

namespace Kind

/-- A node of a kind. -/
def make : Kind → List Query → Query
  | .all => .all
  | .any => .any

/-- The operation that makes nodes of a kind. -/
def join : Kind → Query → Query → Query
  | .all => conj
  | .any => disj

/-- The constant that joins nothing to a query. -/
def unit : Kind → Query
  | .all => .always
  | .any => .never

/-- The constant that nothing joined to it changes. -/
def zero : Kind → Query
  | .all => .never
  | .any => .always

/-- The parts of a query seen as a node of a kind. -/
def parts : Kind → Query → List Query
  | .all => conjuncts
  | .any => disjuncts

variable (kind : Kind) {a b c q : Query}

theorem zero_join (q : Query) : kind.join kind.zero q = kind.zero := by
  cases kind with
  | all => exact never_conj q
  | any => exact always_disj q

theorem join_zero (q : Query) : kind.join q kind.zero = kind.zero := by
  cases kind with
  | all => exact conj_never q
  | any => exact disj_always q

theorem unit_join (q : Query) : kind.join kind.unit q = q := by
  cases kind with
  | all => exact always_conj q
  | any => exact never_disj q

theorem join_unit (q : Query) : kind.join q kind.unit = q := by
  cases kind with
  | all => exact conj_always q
  | any => cases q <;> rfl

/-- Queries that are not constants are joined by their parts. -/
theorem join_eq_node (haz : a ≠ kind.zero) (hbz : b ≠ kind.zero) (hau : a ≠ kind.unit)
    (hbu : b ≠ kind.unit) :
    kind.join a b = node kind.make (mergeParts (kind.parts a) (kind.parts b)) := by
  cases kind with
  | all =>
    rw [join, conj]
    · rfl
    all_goals assumption
  | any =>
    rw [join, disj]
    · rfl
    all_goals assumption

/-! ## Trigrams of joined queries -/

theorem mem_mentioned_parts {t : Trigram} :
    (∃ part ∈ kind.parts q, t ∈ part.mentioned) ↔ t ∈ q.mentioned := by
  cases kind <;> cases q <;> simp [parts, conjuncts, disjuncts]

theorem mem_mentioned_node {t : Trigram} {parts : List Query} :
    t ∈ (node kind.make parts).mentioned ↔ ∃ part ∈ parts, t ∈ part.mentioned := by
  unfold node
  split
  · simp
  · cases kind <;> simp [make]

/-- A joined query mentions no other trigrams than the two queries. -/
theorem mem_mentioned_of_join {t : Trigram} (ht : t ∈ (kind.join a b).mentioned) :
    t ∈ a.mentioned ∨ t ∈ b.mentioned := by
  by_cases haz : a = kind.zero
  · rw [haz, zero_join] at ht
    exact .inl (haz ▸ ht)
  by_cases hbz : b = kind.zero
  · rw [hbz, join_zero] at ht
    exact .inr (hbz ▸ ht)
  by_cases hau : a = kind.unit
  · rw [hau, unit_join] at ht
    exact .inr ht
  by_cases hbu : b = kind.unit
  · rw [hbu, join_unit] at ht
    exact .inl ht
  rw [join_eq_node kind haz hbz hau hbu, mem_mentioned_node] at ht
  obtain ⟨part, hpart, ht⟩ := ht
  rcases (mem_mergeParts part _ _).mp hpart with hpart | hpart
  · exact .inl ((mem_mentioned_parts kind).mp ⟨part, hpart, ht⟩)
  · exact .inr ((mem_mentioned_parts kind).mp ⟨part, hpart, ht⟩)

end Kind

/-! ## Normal form -/

mutual

/-- Whether a query may stand directly under a node of a kind: it is a trigram, or a node of the other kind with
at least two parts, all different, each of which may stand under it. -/
def isPartOf (kind : Kind) : Query → Bool
  | .always => false
  | .never => false
  | .has _ => true
  | .all parts =>
    decide (kind = .any) && decide (2 ≤ parts.length) && decide parts.Nodup && arePartsOf .all parts
  | .any parts =>
    decide (kind = .all) && decide (2 ≤ parts.length) && decide parts.Nodup && arePartsOf .any parts

/-- Whether every query of a list may stand directly under a node of a kind. -/
def arePartsOf (kind : Kind) : List Query → Bool
  | [] => true
  | part :: parts => isPartOf kind part && arePartsOf kind parts

end

/-- Whether a query is in normal form: a constant, a trigram, or a node with at least two parts, all different,
each of which is a trigram or a normal node of the other kind. -/
def isNormal (q : Query) : Bool :=
  q.isAlways || q.isNever || isPartOf .all q || isPartOf .any q

theorem arePartsOf_iff {kind : Kind} {parts : List Query} :
    arePartsOf kind parts = true ↔ ∀ part ∈ parts, isPartOf kind part = true := by
  induction parts with
  | nil => simp [arePartsOf]
  | cons part parts ih => rw [arePartsOf, Bool.and_eq_true, ih, List.forall_mem_cons]

namespace Kind

/-- The kind of the nodes that may stand directly under those of a kind. -/
def other : Kind → Kind
  | .all => .any
  | .any => .all

/-- Parts that a normal query can join: they are all different and may stand under a node. -/
structure IsSpine (kind : Kind) (parts : List Query) : Prop where
  nodup : parts.Nodup
  isPartOf : ∀ part ∈ parts, isPartOf kind part = true

/-- The parts of a normal node: there are at least two of them. -/
structure IsNode (kind : Kind) (parts : List Query) : Prop extends kind.IsSpine parts where
  two_le : 2 ≤ parts.length

variable {kind : Kind} {a b c q : Query} {parts : List Query}

theorem isNode_iff : kind.IsNode parts ↔
    (2 ≤ parts.length ∧ parts.Nodup) ∧ ∀ part ∈ parts, Query.isPartOf kind part = true :=
  ⟨fun h => ⟨⟨h.two_le, h.nodup⟩, h.isPartOf⟩, fun h => ⟨⟨h.1.2, h.2⟩, h.1.1⟩⟩

/-- What may stand under a node is a trigram or a normal node of the other kind. -/
theorem isPartOf_iff : Query.isPartOf kind q = true ↔
    (∃ t, q = .has t) ∨ ∃ parts, q = kind.other.make parts ∧ kind.other.IsNode parts := by
  cases kind <;> cases q <;> simp [Query.isPartOf, arePartsOf_iff, isNode_iff, other, make]

/-- A normal query is a constant, a trigram, or a normal node of the one kind or of the other. -/
theorem isNormal_iff (kind : Kind) : q.isNormal = true ↔
    q = kind.unit ∨ q = kind.zero ∨ (∃ t, q = .has t) ∨ (∃ parts, q = kind.make parts ∧ kind.IsNode parts) ∨
      ∃ parts, q = kind.other.make parts ∧ kind.other.IsNode parts := by
  cases kind <;> cases q <;>
    simp [isNormal, isAlways, isNever, Query.isPartOf, arePartsOf_iff, isNode_iff, unit, zero, other, make]

/-! ## Queries and the parts that they join -/

/-- The parts that a query joins; none for the constant that joins nothing. -/
def spine (kind : Kind) (q : Query) : List Query :=
  if q = kind.unit then [] else kind.parts q

/-- The query that joins some parts. -/
def ofSpine (kind : Kind) : List Query → Query
  | [] => kind.unit
  | parts => node kind.make parts

theorem ofSpine_of_ne_nil (h : parts ≠ []) : kind.ofSpine parts = node kind.make parts := by
  cases parts with
  | nil => exact absurd rfl h
  | cons part parts => rfl

theorem ofSpine_of_two_le (h : 2 ≤ parts.length) : kind.ofSpine parts = kind.make parts := by
  match parts, h with
  | _ :: _ :: _, _ => rfl

/-- A part of a node is not joined any further. -/
theorem spine_of_isPartOf (h : Query.isPartOf kind q = true) : kind.spine q = [q] := by
  rcases isPartOf_iff.mp h with ⟨t, rfl⟩ | ⟨parts, rfl, -⟩ <;> cases kind <;> rfl

theorem spine_make (kind : Kind) (parts : List Query) : kind.spine (kind.make parts) = parts := by
  cases kind <;> rfl

theorem ne_zero_of_isPartOf (h : Query.isPartOf kind q = true) : q ≠ kind.zero := by
  rintro rfl
  cases kind <;> cases h

/-- Apart from the constant that ends it all, a normal query joins parts that a normal query can join, and it is
known by them. -/
theorem isSpine_spine (hq : q.isNormal = true) (hzero : q ≠ kind.zero) :
    kind.IsSpine (kind.spine q) ∧ kind.ofSpine (kind.spine q) = q := by
  have hpart (h : Query.isPartOf kind q = true) :
      kind.IsSpine (kind.spine q) ∧ kind.ofSpine (kind.spine q) = q := by
    rw [spine_of_isPartOf h]
    exact ⟨⟨by simp, by simpa using h⟩, rfl⟩
  rcases (isNormal_iff kind).mp hq with rfl | rfl | hhas | ⟨parts, rfl, hnode⟩ | hother
  · rw [spine, if_pos rfl]
    exact ⟨⟨List.nodup_nil, nofun⟩, rfl⟩
  · exact absurd rfl hzero
  · exact hpart (isPartOf_iff.mpr (.inl hhas))
  · rw [spine_make]
    exact ⟨hnode.toIsSpine, ofSpine_of_two_le hnode.two_le⟩
  · exact hpart (isPartOf_iff.mpr (.inr hother))

/-- Parts that a normal query can join are the parts of such a query. -/
theorem IsSpine.ofSpine (h : kind.IsSpine parts) :
    (kind.ofSpine parts).isNormal = true ∧ kind.ofSpine parts ≠ kind.zero ∧
      kind.spine (kind.ofSpine parts) = parts := by
  match parts with
  | [] =>
    refine ⟨(isNormal_iff kind).mpr (.inl rfl), ?_, if_pos rfl⟩
    cases kind <;> nofun
  | [part] =>
    have hpart := h.isPartOf part List.mem_cons_self
    refine ⟨(isNormal_iff kind).mpr (.inr (.inr ?_)), ne_zero_of_isPartOf hpart, spine_of_isPartOf hpart⟩
    exact (isPartOf_iff.mp hpart).imp_right .inr
  | first :: second :: rest =>
    have hnode : kind.IsNode (first :: second :: rest) := ⟨h, by simp⟩
    refine ⟨(isNormal_iff kind).mpr (.inr (.inr (.inr (.inl ⟨_, rfl, hnode⟩)))), ?_, spine_make kind _⟩
    cases kind <;> nofun

theorem IsSpine.mergeParts {as bs : List Query} (ha : kind.IsSpine as) (hb : kind.IsSpine bs) :
    kind.IsSpine (mergeParts as bs) where
  nodup := nodup_mergeParts as bs
  isPartOf part hpart := by
    rcases (mem_mergeParts part as bs).mp hpart with hpart | hpart
    · exact ha.isPartOf part hpart
    · exact hb.isPartOf part hpart

/-! ## Laws -/

/-- Joining normal queries is merging the parts that they join. -/
theorem join_eq_ofSpine (ha : a.isNormal = true) (hb : b.isNormal = true) (haz : a ≠ kind.zero)
    (hbz : b ≠ kind.zero) :
    kind.join a b = kind.ofSpine (mergeParts (kind.spine a) (kind.spine b)) := by
  obtain ⟨has, haq⟩ := isSpine_spine ha haz
  obtain ⟨hbs, hbq⟩ := isSpine_spine hb hbz
  by_cases hau : a = kind.unit
  · have hnil : kind.spine a = [] := if_pos hau
    rw [hnil, nil_mergeParts hbs.nodup, hbq, hau, unit_join]
  by_cases hbu : b = kind.unit
  · have hnil : kind.spine b = [] := if_pos hbu
    rw [hnil, mergeParts_nil has.nodup, haq, hbu, join_unit]
  have hne : mergeParts (kind.spine a) (kind.spine b) ≠ [] := by
    -- a query without parts is the constant that joins nothing
    intro hnil
    have hspine : kind.spine a = [] :=
      List.eq_nil_iff_forall_not_mem.mpr fun part hpart =>
        List.ne_nil_of_mem ((mem_mergeParts part _ _).mpr (.inl hpart)) hnil
    rw [hspine] at haq
    exact hau haq.symm
  rw [ofSpine_of_ne_nil hne, join_eq_node kind haz hbz hau hbu, spine, spine, if_neg hau, if_neg hbu]

/-- What joins two normal queries is normal and joins their parts. -/
theorem spine_join (ha : a.isNormal = true) (hb : b.isNormal = true) (haz : a ≠ kind.zero)
    (hbz : b ≠ kind.zero) :
    (kind.join a b).isNormal = true ∧ kind.join a b ≠ kind.zero ∧
      kind.spine (kind.join a b) = mergeParts (kind.spine a) (kind.spine b) := by
  rw [join_eq_ofSpine ha hb haz hbz]
  exact ((isSpine_spine ha haz).1.mergeParts (isSpine_spine hb hbz).1).ofSpine

theorem isNormal_join (kind : Kind) (ha : a.isNormal = true) (hb : b.isNormal = true) :
    (kind.join a b).isNormal = true := by
  by_cases haz : a = kind.zero
  · rw [haz, zero_join]
    exact haz ▸ ha
  by_cases hbz : b = kind.zero
  · rw [hbz, join_zero]
    exact hbz ▸ hb
  exact (spine_join ha hb haz hbz).1

theorem join_assoc (kind : Kind) (ha : a.isNormal = true) (hb : b.isNormal = true) (hc : c.isNormal = true) :
    kind.join (kind.join a b) c = kind.join a (kind.join b c) := by
  by_cases haz : a = kind.zero
  · rw [haz, zero_join, zero_join, zero_join]
  by_cases hbz : b = kind.zero
  · rw [hbz, zero_join, join_zero, zero_join]
  by_cases hcz : c = kind.zero
  · rw [hcz, join_zero, join_zero, join_zero]
  obtain ⟨hab, habz, habs⟩ := spine_join ha hb haz hbz
  obtain ⟨hbc, hbcz, hbcs⟩ := spine_join hb hc hbz hcz
  rw [join_eq_ofSpine hab hc habz hcz, habs, join_eq_ofSpine ha hbc haz hbcz, hbcs, mergeParts_assoc]

theorem join_self (kind : Kind) (ha : a.isNormal = true) : kind.join a a = a := by
  by_cases haz : a = kind.zero
  · rw [haz, zero_join]
  obtain ⟨hspine, heq⟩ := isSpine_spine ha haz
  rw [join_eq_ofSpine ha ha haz haz, mergeParts_self hspine.nodup, heq]

end Kind

/-! ## Normal queries -/

theorem isNormal_hasAll (ts : List Trigram) : (hasAll ts).isNormal = true :=
  List.foldlRecOn ts _ (motive := fun q : Query => q.isNormal = true) rfl fun _ hq _ _ =>
    Kind.isNormal_join .all hq rfl

/-- What is read off the top of a query is normal, also if the query is not. -/
theorem isNormal_required (q : Query) : q.required.isNormal = true := by
  cases q with
  | all parts => exact isNormal_hasAll _
  | always | never | has | any => rfl

/-- A derivation does not leave the normal queries whose trigrams are made of three bytes. -/
theorem closed_isNormal : Closed fun q => q.isNormal = true ∧ ∀ t ∈ q.mentioned, t.toNat < 0x1000000 where
  always := ⟨rfl, by simp [mentioned]⟩
  never := ⟨rfl, by simp [mentioned]⟩
  has first second third :=
    ⟨rfl, fun t ht => mem_mentioned_has.mp ht ▸ Trigram.toNat_ofBytes_lt first second third⟩
  conj ha hb := ⟨Kind.isNormal_join .all ha.1 hb.1, fun t ht =>
    (Kind.mem_mentioned_of_join .all ht).elim (ha.2 t) (hb.2 t)⟩
  disj ha hb := ⟨Kind.isNormal_join .any ha.1 hb.1, fun t ht =>
    (Kind.mem_mentioned_of_join .any ht).elim (ha.2 t) (hb.2 t)⟩

/-- **Queries are built in normal form.** The operations on normal queries give normal ones, and so does reading
off the top of one; a list of trigrams, whatever they are, and every expression, whatever the limits are, give a
normal query, the latter with trigrams of three bytes only.  On normal queries the two operations are associative
and idempotent, with one of the constants for a unit, as equalities of trees. -/
theorem normal_laws {a b c : Query} (ha : a.isNormal = true) (hb : b.isNormal = true) (hc : c.isNormal = true)
    (ts : List Trigram) (limits : Limits) (r : Regex) :
    ((a.conj b).isNormal = true ∧ (a.disj b).isNormal = true ∧
        (hasAll ts).isNormal = true ∧ a.required.isNormal = true) ∧
      ((ofRegex limits r).isNormal = true ∧ ∀ t ∈ (ofRegex limits r).trigrams, t.toNat < 0x1000000) ∧
      ((a.conj b).conj c = a.conj (b.conj c) ∧ (a.disj b).disj c = a.disj (b.disj c)) ∧
      (a.conj a = a ∧ a.disj a = a) ∧
      (conj .always a = a ∧ a.conj .always = a ∧ disj .never a = a ∧ a.disj .never = a) := by
  obtain ⟨hnormal, htrigrams⟩ := closed_isNormal.ofRegex limits r
  refine ⟨⟨?_, ?_, isNormal_hasAll ts, isNormal_required a⟩, ⟨hnormal, fun t ht => ?_⟩, ⟨?_, ?_⟩, ⟨?_, ?_⟩, ?_⟩
  · exact Kind.isNormal_join .all ha hb
  · exact Kind.isNormal_join .any ha hb
  · exact htrigrams t (mem_trigrams.mp ht)
  · exact Kind.join_assoc .all ha hb hc
  · exact Kind.join_assoc .any ha hb hc
  · exact Kind.join_self .all ha
  · exact Kind.join_self .any ha
  · exact ⟨Kind.unit_join .all a, Kind.join_unit .all a, Kind.unit_join .any a, Kind.join_unit .any a⟩

/-- A conjunction with a disjunction inside, that disjunction alone, and a trigram: joined in either order they are
the conjunction again. -/
theorem normal_laws_nested :
    let a : Query := .all [.has 1, .any [.has 2, .has 3]]
    let b : Query := .any [.has 2, .has 3]
    let c : Query := .has 1
    a.isNormal = true ∧ b.isNormal = true ∧ c.isNormal = true ∧ (a.conj b).conj c = a ∧ a.conj (b.conj c) = a ∧
      (a.disj b).isNormal = true ∧ a.required.isNormal = true := by
  intro a b c
  have ha : a.isNormal = true := by decide
  have hb : b.isNormal = true := by decide
  have hc : c.isNormal = true := by decide
  obtain ⟨⟨-, hdisj, -, hrequired⟩, -, ⟨hassoc, -⟩, -⟩ := normal_laws ha hb hc [] {} .empty
  have hleft : (a.conj b).conj c = a := by decide
  exact ⟨ha, hb, hc, hleft, hassoc.symm.trans hleft, hdisj, hrequired⟩

/-- A conjunction that stands alone in another one is not normal, and the order of joining shows. -/
example :
    let a : Query := .all [.all [.has 1, .has 2]]
    (a.conj a).conj (.has 3) = .all [.has 1, .has 2, .has 3] ∧
      a.conj (a.conj (.has 3)) = .all [.all [.has 1, .has 2], .has 3] := by
  decide

end TrigramGrep.Query
