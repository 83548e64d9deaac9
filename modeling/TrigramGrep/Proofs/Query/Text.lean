import TrigramGrep.Proofs.Bytes
import TrigramGrep.Proofs.Query.Normal
import TrigramGrep.Query.Text

/-!
# Queries are known by their texts

No two normal queries have the same text, although the characters between the parts of a node may stand in a quoted
trigram as well, and although the text of a node does not say which node it is until its second part.

## Shape of the proof

A part of a node, in parentheses if it is a node itself, tells where it ends, whatever follows it
(`cancels`): a trigram is three bytes in printable form, and a node ends with the closing parenthesis.
Behind each of its parts there stands either this parenthesis or a separator, and a separator followed by a part tells
of which kind the node is, since no part starts with a bar.  A text that stands for itself is read like a node with a
parenthesis behind.
-/

namespace TrigramGrep.Query

variable {kind kind' : Kind} {p q part : Query} {parts ps qs : List Query} {r s : List Char} {t u : Trigram}

/-! ## Trigrams -/

/-- The text of a trigram tells the trigram and where it ends. -/
theorem quoted_append_injective (ht : t.toNat < 0x1000000) (hu : u.toNat < 0x1000000)
    (h : quoted t ++ r = quoted u ++ s) : t = u ∧ r = s := by
  simp only [quoted, List.cons_append, List.append_assoc, List.nil_append, List.cons.injEq, true_and] at h
  have hlength : (Trigram.toBytes t).length = (Trigram.toBytes u).length := rfl
  obtain ⟨hbytes, hrest⟩ := Bytes.escape_append_injective hlength h
  exact ⟨Trigram.toBytes_injective ht hu hbytes, (List.cons.inj hrest).2⟩

/-! ## Parts of nodes -/

/-- What may stand under a node of a normal query, with trigrams of three bytes. -/
structure IsWritten (kind : Kind) (q : Query) : Prop where
  isPartOf : q.isPartOf kind = true
  lt_of_mem_mentioned : ∀ t ∈ q.mentioned, t.toNat < 0x1000000

/-- The characters of a part of a node. -/
def enclosed (q : Query) : List Char :=
  parenthesized (q.isAll || q.isAny) q.chars

/-- What stands between two parts of a node. -/
def Kind.separator : Kind → List Char
  | .all => [' ']
  | .any => [' ', '|', ' ']

/-- What stands behind the first part of a node. -/
def Kind.tail (kind : Kind) (parts : List Query) : List Char :=
  parts.flatMap fun part => kind.separator ++ enclosed part

theorem Kind.mem_mentioned_make : t ∈ (kind.make parts).mentioned ↔ ∃ part ∈ parts, t ∈ part.mentioned := by
  cases kind <;> simp [make]

theorem Kind.make_inj : kind.make ps = kind'.make qs ↔ kind = kind' ∧ ps = qs := by
  cases kind <;> cases kind' <;> simp [make]

theorem Kind.make_ne_has : kind.make parts ≠ .has t := by
  cases kind <;> nofun

theorem node_of_ne_nil (make : List Query → Query) (p : Query) (h : ps ≠ []) :
    node make (p :: ps) = make (p :: ps) := by
  obtain ⟨p', ps, rfl⟩ := List.exists_cons_of_ne_nil h
  rfl

/-- A normal node has a first part and others behind it. -/
theorem Kind.IsNode.exists_cons (h : kind.IsNode parts) : ∃ p ps, parts = p :: ps ∧ ps ≠ [] := by
  obtain ⟨p, ps, rfl⟩ := List.exists_cons_of_length_pos (Nat.lt_of_lt_of_le Nat.two_pos h.two_le)
  exact ⟨p, ps, rfl, List.ne_nil_of_length_pos (Nat.le_of_succ_le_succ h.two_le)⟩

/-- What is true of the trigrams of a normal node is true of those of its parts. -/
theorem Kind.IsNode.isWritten (h : kind.IsNode parts)
    (hlt : ∀ t ∈ (kind.make parts).mentioned, t.toNat < 0x1000000) : ∀ part ∈ parts, IsWritten kind part :=
  fun part hpart => ⟨h.isPartOf part hpart, fun t ht => hlt t (mem_mentioned_make.mpr ⟨part, hpart, ht⟩)⟩

/-- A part is a trigram, or a node of the other kind with a part and others behind it. -/
theorem IsWritten.eq_has_or_eq_make (h : IsWritten kind q) :
    (∃ t, q = .has t ∧ t.toNat < 0x1000000) ∨
      ∃ p ps, q = kind.other.make (p :: ps) ∧ ps ≠ [] ∧ ∀ part ∈ p :: ps, IsWritten kind.other part := by
  rcases Kind.isPartOf_iff.mp h.isPartOf with ⟨t, rfl⟩ | ⟨parts, rfl, hnode⟩
  · exact .inl ⟨t, rfl, h.lt_of_mem_mentioned t (mem_mentioned_has.mpr rfl)⟩
  · obtain ⟨p, ps, rfl, hne⟩ := hnode.exists_cons
    exact .inr ⟨p, ps, rfl, hne, hnode.isWritten h.lt_of_mem_mentioned⟩

theorem enclosed_make (kind : Kind) (parts : List Query) :
    enclosed (kind.make parts) = '(' :: ((kind.make parts).chars ++ [')']) := by
  cases kind <;> rfl

/-- A part starts with a quote or a parenthesis. -/
theorem IsWritten.head?_enclosed (h : IsWritten kind q) :
    (enclosed q).head? = some '"' ∨ (enclosed q).head? = some '(' := by
  rcases h.eq_has_or_eq_make with ⟨t, rfl, -⟩ | ⟨p, ps, rfl, -, -⟩
  · exact .inl rfl
  · rw [enclosed_make]
    exact .inr rfl

/-- Under a node of a kind only nodes of the other kind are put in parentheses, and there are no others. -/
theorem IsWritten.enclosed_eq (h : IsWritten kind q) :
    enclosed q = parenthesized (match kind with | .all => q.isAny | .any => q.isAll) q.chars := by
  rcases h.eq_has_or_eq_make with ⟨t, rfl, -⟩ | ⟨p, ps, rfl, -, -⟩ <;> cases kind <;> rfl

/-- A node is written as its first part and what stands behind it. -/
theorem chars_make (h : ∀ part ∈ p :: ps, IsWritten kind part) :
    (kind.make (p :: ps)).chars = enclosed p ++ kind.tail ps := by
  induction ps generalizing p with
  | nil =>
    rw [(h p List.mem_cons_self).enclosed_eq, Kind.tail, List.flatMap_nil, List.append_nil]
    cases kind <;> rfl
  | cons p' ps ih =>
    obtain ⟨hp, hps⟩ := List.forall_mem_cons.mp h
    rw [Kind.tail, List.flatMap_cons, List.append_assoc]
    have hrest := ih hps
    rw [Kind.tail] at hrest
    rw [← hrest, hp.enclosed_eq]
    cases kind <;> rfl

/-- Whether the text of a part tells the part and where it ends. -/
def Cancels (p : Query) : Prop :=
  ∀ {kind kind' : Kind} {q : Query} {r s : List Char}, IsWritten kind p → IsWritten kind' q →
    enclosed p ++ r = enclosed q ++ s → p = q ∧ r = s

/-- A separator and the part behind it tell what the separator is: no part starts with a bar. -/
theorem separator_append_injective (hp : IsWritten kind p) (hq : IsWritten kind' q)
    (h : kind.separator ++ (enclosed p ++ r) = kind'.separator ++ (enclosed q ++ s)) :
    kind = kind' ∧ enclosed p ++ r = enclosed q ++ s := by
  have hbar {kind : Kind} {part : Query} {rest : List Char} (hpart : IsWritten kind part) :
      (enclosed part ++ rest).head? ≠ some '|' := by
    rcases hpart.head?_enclosed with hhead | hhead <;> simp [List.head?_append, hhead]
  cases kind <;> cases kind' <;>
    simp only [Kind.separator, List.cons_append, List.nil_append, List.cons.injEq, true_and] at h
  · exact ⟨rfl, h⟩
  · exact absurd (congrArg List.head? h) (hbar hp)
  · exact absurd (congrArg List.head? h).symm (hbar hq)
  · exact ⟨rfl, h⟩

/-- Up to the parenthesis behind a node the other parts are told, and if there are any, the kind of the node. -/
theorem tail_append_injective (hcancels : ∀ p ∈ ps, Cancels p) (hps : ∀ p ∈ ps, IsWritten kind p)
    (hqs : ∀ q ∈ qs, IsWritten kind' q) (h : kind.tail ps ++ ')' :: r = kind'.tail qs ++ ')' :: s) :
    ps = qs ∧ r = s ∧ (ps ≠ [] → kind = kind') := by
  have hblank (kind : Kind) (rest : List Char) : (kind.separator ++ rest).head? = some ' ' := by
    cases kind <;> rfl
  induction ps generalizing qs with
  | nil =>
    cases qs with
    | nil => exact ⟨rfl, (List.cons.inj h).2, absurd rfl⟩
    | cons q qs =>
      have hhead := congrArg List.head? h
      simp [Kind.tail, hblank] at hhead
  | cons p ps ih =>
    cases qs with
    | nil =>
      have hhead := congrArg List.head? h
      simp [Kind.tail, hblank] at hhead
    | cons q qs =>
      obtain ⟨hcancel, hcancels⟩ := List.forall_mem_cons.mp hcancels
      obtain ⟨hp, hps⟩ := List.forall_mem_cons.mp hps
      obtain ⟨hq, hqs'⟩ := List.forall_mem_cons.mp hqs
      simp only [Kind.tail, List.flatMap_cons, List.append_assoc] at h ih
      obtain ⟨rfl, hparts⟩ := separator_append_injective hp hq h
      obtain ⟨rfl, htail⟩ := hcancel hp hq hparts
      obtain ⟨rfl, hrest, -⟩ := ih hcancels hps hqs' htail
      exact ⟨rfl, hrest, fun _ => rfl⟩

/-- The text of a node up to the parenthesis behind it tells its parts, and if there are at least two, its kind. -/
theorem chars_make_append_injective (hcancels : ∀ part ∈ p :: ps, Cancels part)
    (hps : ∀ part ∈ p :: ps, IsWritten kind part) (hqs : ∀ part ∈ q :: qs, IsWritten kind' part)
    (h : (kind.make (p :: ps)).chars ++ ')' :: r = (kind'.make (q :: qs)).chars ++ ')' :: s) :
    p :: ps = q :: qs ∧ r = s ∧ (ps ≠ [] → kind = kind') := by
  rw [chars_make hps, chars_make hqs, List.append_assoc, List.append_assoc] at h
  obtain ⟨hcancel, hcancels⟩ := List.forall_mem_cons.mp hcancels
  obtain ⟨hp, hps⟩ := List.forall_mem_cons.mp hps
  obtain ⟨hq, hqs'⟩ := List.forall_mem_cons.mp hqs
  obtain ⟨rfl, htail⟩ := hcancel hp hq h
  obtain ⟨rfl, hrest, hkind⟩ := tail_append_injective hcancels hps hqs' htail
  exact ⟨rfl, hrest, hkind⟩

theorem cancels_has (t : Trigram) : Cancels (.has t) := by
  intro kind kind' q r s hp hq h
  rcases hq.eq_has_or_eq_make with ⟨u, rfl, hu⟩ | ⟨q, qs, rfl, -, -⟩
  · obtain ⟨rfl, hrest⟩ := quoted_append_injective (hp.lt_of_mem_mentioned t (mem_mentioned_has.mpr rfl)) hu h
    exact ⟨rfl, hrest⟩
  · rw [enclosed_make] at h
    cases h

theorem cancels_make (kind : Kind) (ih : ∀ part ∈ parts, Cancels part) : Cancels (kind.make parts) := by
  intro outer outer' q r s hp hq h
  rcases hp.eq_has_or_eq_make with ⟨t, heq, -⟩ | ⟨p, ps, heq, hne, hps⟩
  · exact absurd heq Kind.make_ne_has
  obtain ⟨rfl, rfl⟩ := Kind.make_inj.mp heq
  rw [enclosed_make] at h
  rcases hq.eq_has_or_eq_make with ⟨u, rfl, -⟩ | ⟨q, qs, rfl, -, hqs⟩
  · cases h
  · rw [enclosed_make] at h
    simp only [List.cons_append, List.append_assoc, List.nil_append, List.cons.injEq, true_and] at h
    obtain ⟨hparts, hrest, hkind⟩ := chars_make_append_injective ih hps hqs h
    exact ⟨by rw [hparts, hkind hne], hrest⟩

/-- Every part of a node tells where it ends. -/
theorem cancels (p : Query) : Cancels p := by
  induction p using induction_parts with
  | always => exact fun hp => nomatch hp.isPartOf
  | never => exact fun hp => nomatch hp.isPartOf
  | has t => exact cancels_has t
  | all parts ih => exact cancels_make .all ih
  | any parts ih => exact cancels_make .any ih

/-! ## Whole queries -/

/-- A normal query is a constant, or it is written like a node over some of its parts, itself if it is none. -/
theorem eq_unit_or_eq_node (hq : q.isNormal = true) (hlt : ∀ t ∈ q.mentioned, t.toNat < 0x1000000) :
    (q = .always ∨ q = .never) ∨ ∃ kind p ps, q = node kind.make (p :: ps) ∧
      q.chars = (kind.make (p :: ps)).chars ∧ ∀ part ∈ p :: ps, IsWritten kind part := by
  have hnode {kind : Kind} {parts : List Query} (hparts : kind.IsNode parts)
      (hlt : ∀ t ∈ (kind.make parts).mentioned, t.toNat < 0x1000000) :
      ∃ kind' p ps, kind.make parts = node kind'.make (p :: ps) ∧
        (kind.make parts).chars = (kind'.make (p :: ps)).chars ∧ ∀ part ∈ p :: ps, IsWritten kind' part := by
    obtain ⟨p, ps, rfl, hne⟩ := hparts.exists_cons
    exact ⟨kind, p, ps, (node_of_ne_nil _ p hne).symm, rfl, hparts.isWritten hlt⟩
  rcases (Kind.isNormal_iff .all).mp hq with rfl | rfl | ⟨t, rfl⟩ | ⟨parts, rfl, hparts⟩ | ⟨parts, rfl, hparts⟩
  · exact .inl (.inl rfl)
  · exact .inl (.inr rfl)
  · exact .inr ⟨.all, .has t, [], rfl, rfl, List.forall_mem_singleton.mpr ⟨rfl, hlt⟩⟩
  · exact .inr (hnode hparts hlt)
  · exact .inr (hnode hparts hlt)

/-- A constant is not written like a node. -/
theorem chars_ne_chars_make (hq : q = .always ∨ q = .never) (hps : ∀ part ∈ p :: ps, IsWritten kind part) :
    q.chars ≠ (kind.make (p :: ps)).chars := by
  intro heq
  have hhead := congrArg List.head? heq
  rw [chars_make hps, List.head?_append] at hhead
  rcases hq with rfl | rfl <;> rcases (hps p List.mem_cons_self).head?_enclosed with h | h <;>
    simp [chars, h] at hhead

/-- **Queries are known by their texts.** Two normal queries with trigrams of three bytes and the same text are
equal. -/
theorem eq_of_text_eq (hp : p.isNormal = true) (hq : q.isNormal = true)
    (hpt : ∀ t ∈ p.trigrams, t.toNat < 0x1000000) (hqt : ∀ t ∈ q.trigrams, t.toNat < 0x1000000)
    (h : p.text = q.text) : p = q := by
  have hchars : p.chars = q.chars := String.ofList_injective h
  rcases eq_unit_or_eq_node hp fun t ht => hpt t (mem_trigrams.mpr ht) with hpc | ⟨kind, p', ps, rfl, hpchars, hps⟩ <;>
    rcases eq_unit_or_eq_node hq fun t ht => hqt t (mem_trigrams.mpr ht) with
      hqc | ⟨kind', q', qs, rfl, hqchars, hqs⟩
  · rcases hpc with rfl | rfl <;> rcases hqc with rfl | rfl
    · rfl
    · cases hchars
    · cases hchars
    · rfl
  · exact absurd (hchars.trans hqchars) (chars_ne_chars_make hpc hqs)
  · exact absurd (hchars.symm.trans hpchars) (chars_ne_chars_make hqc hps)
  · rw [hpchars, hqchars] at hchars
    obtain ⟨hparts, -, hkind⟩ := chars_make_append_injective (fun part _ => cancels part) hps hqs
      (congrArg (· ++ [')']) hchars)
    cases hparts
    -- a single part is the query itself, whatever node it is written like
    cases ps with
    | nil => rfl
    | cons first ps => rw [hkind (List.cons_ne_nil first ps)]

/-- A quote, a bar and parentheses are bytes of the trigrams as well; joined with itself the query keeps its text. -/
theorem eq_of_text_eq_quotes :
    let p : Query := .all [.has 0x612022, .any [.has 0x22207C, .has 0x282920]]
    p.isNormal = true ∧ (p.conj p).isNormal = true ∧ p.text = "\"a \\\"\" (\"\\\" |\" | \"() \")" ∧
      p.text = (p.conj p).text ∧ p = p.conj p := by
  intro p
  have hnormal : p.isNormal = true := by decide
  have hjoined : (p.conj p).isNormal = true := by decide
  have hmentioned : ∀ t ∈ p.mentioned, t.toNat < 0x1000000 := by simp [p, mentioned, mentionedIn]
  have hmentioned' : ∀ t ∈ (p.conj p).mentioned, t.toNat < 0x1000000 := fun t ht =>
    (Kind.mem_mentioned_of_join .all ht).elim (hmentioned t) (hmentioned t)
  have htext : p.text = (p.conj p).text := by decide
  exact ⟨hnormal, hjoined, by decide, htext,
    eq_of_text_eq hnormal hjoined (fun t ht => hmentioned t (mem_trigrams.mp ht))
      (fun t ht => hmentioned' t (mem_trigrams.mp ht)) htext⟩

/-- A node over one part is written like the part, and the top byte of a number that is no trigram is not written. -/
example : text (.all [.has 1]) = text (.has 1) ∧ text (.has 0x1000000) = text (.has 0) := by decide

end TrigramGrep.Query
