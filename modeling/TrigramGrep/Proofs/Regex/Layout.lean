import TrigramGrep.Proofs.Regex.Pruned
import TrigramGrep.Proofs.Regex.Search

/-!
# A program spells the words of its expression

Between the first instruction of an expression and the place behind its last one, a run that goes on to the
end of the program takes a word of the language of the expression.  So a match that is found is a word.

## Shape of the proof

`Program.Spells` says this of two places of a program.  It goes through the instructions: a fork spells the
sum of what its two places spell, and a loop the powers of its body, by induction on the steps that are left.
`Lays` says of a layout how long it is, that it keeps the program it is put behind, and what it spells there,
whatever comes later.  There is one lemma for each way in which layouts are put together, and the expression
is gone through by its parts.
-/

namespace TrigramGrep

namespace Program

variable {program : Program} {buffer : Buffer} {L M : Language UInt8}

/-- Every run from one place to the end of a program comes by another place, and takes a word of a language
on its way there. -/
def Spells (program : Program) (place stop : Nat) (L : Language UInt8) : Prop :=
  ∀ ⦃buffer : Buffer⦄ ⦃steps i last : Nat⦄, i ≤ buffer.size → program.Ends buffer steps ⟨place, i⟩ last →
    ∃ rest ≤ steps, ∃ j, i ≤ j ∧ j ≤ buffer.size ∧ buffer.between i j ∈ L ∧
      program.Ends buffer rest ⟨stop, j⟩ last

/-! ## Places -/

theorem Spells.mono {a b : Nat} (h : program.Spells a b L) (hLM : L ≤ M) : program.Spells a b M := by
  intro buffer steps i last hi hends
  obtain ⟨rest, hrest, j, hij, hj, hword, hends⟩ := h hi hends
  exact ⟨rest, hrest, j, hij, hj, hLM hword, hends⟩

theorem spells_self (program : Program) (a : Nat) : program.Spells a a 1 := by
  intro buffer steps i last hi hends
  exact ⟨steps, Nat.le_refl steps, i, Nat.le_refl i, hi, Buffer.between_self buffer i, hends⟩

theorem Spells.trans {a b c : Nat} (h : program.Spells a b L) (h' : program.Spells b c M) :
    program.Spells a c (L * M) := by
  intro buffer steps i last hi hends
  obtain ⟨middle, hmiddle, j, hij, hj, hword, hends⟩ := h hi hends
  obtain ⟨rest, hrest, k, hjk, hk, hword', hends⟩ := h' hj hends
  refine ⟨rest, hrest.trans hmiddle, k, hij.trans hjk, hk, ?_, hends⟩
  exact Language.mem_mul.mpr ⟨_, hword, _, hword', Buffer.between_append hij hjk⟩

/-- From a place with an instruction a run goes on to one of the next threads. -/
theorem Ends.next {steps last : Nat} {thread : Thread} {instruction : Instruction}
    (h : program.Ends buffer steps thread last) (hat : program[thread.place]? = some instruction) :
    ∃ rest next, steps = rest + 1 ∧ next ∈ thread.next buffer instruction ∧
      program.Ends buffer rest next last := by
  cases h with
  | here hend => rw [hend] at hat; cases hat
  | step hother hgoes hrest =>
    rw [hother] at hat
    cases hat
    exact ⟨_, _, rfl, hgoes, hrest⟩

theorem spells_take {a : Nat} {set : CharClass} (h : program[a]? = some (.take set)) :
    program.Spells a (a + 1) set.language := by
  intro buffer steps i last hi hends
  obtain ⟨rest, next, rfl, hnext, hends⟩ := hends.next h
  obtain ⟨j, htake, rfl⟩ := List.mem_map.mp hnext
  obtain ⟨hij, hj, hword⟩ := CharClass.take?_eq_some (Option.mem_toList.mp htake)
  exact ⟨rest, Nat.le_succ rest, j, hij, hj, hword, hends⟩

theorem spells_check {a : Nat} {condition : Look} (h : program[a]? = some (.check condition)) :
    program.Spells a (a + 1) 1 := by
  intro buffer steps i last hi hends
  obtain ⟨rest, next, rfl, hnext, hends⟩ := hends.next h
  rw [Thread.next] at hnext
  split at hnext
  · rw [List.mem_singleton.mp hnext] at hends
    exact ⟨rest, Nat.le_succ rest, i, Nat.le_refl i, hi, Buffer.between_self buffer i, hends⟩
  · cases hnext

theorem Spells.jump {a b c : Nat} (h : program[a]? = some (.jump b)) (hb : program.Spells b c L) :
    program.Spells a c L := by
  intro buffer steps i last hi hends
  obtain ⟨rest, next, rfl, hnext, hends⟩ := hends.next h
  rw [List.mem_singleton.mp hnext] at hends
  obtain ⟨rest', hrest', hword⟩ := hb hi hends
  exact ⟨rest', Nat.le_succ_of_le hrest', hword⟩

theorem Spells.fork {a first second c : Nat} (h : program[a]? = some (.fork first second))
    (hfirst : program.Spells first c L) (hsecond : program.Spells second c M) :
    program.Spells a c (L + M) := by
  intro buffer steps i last hi hends
  obtain ⟨rest, next, rfl, hnext, hends⟩ := hends.next h
  rcases List.mem_pair.mp hnext with rfl | rfl
  · obtain ⟨rest', hrest', hword⟩ := hfirst.mono le_self_add hi hends
    exact ⟨rest', Nat.le_succ_of_le hrest', hword⟩
  · obtain ⟨rest', hrest', hword⟩ := hsecond.mono le_add_self hi hends
    exact ⟨rest', Nat.le_succ_of_le hrest', hword⟩

/-- Which of the two places a fork prefers makes no difference to what it spells. -/
theorem Spells.choice {a body exit c : Nat} {greedy : Bool}
    (h : program[a]? = some (Program.choice greedy body exit)) (hbody : program.Spells body c L)
    (hexit : program.Spells exit c M) : program.Spells a c (L + M) := by
  cases greedy with
  | true => exact hbody.fork h hexit
  | false =>
    rw [add_comm]
    exact hexit.fork h hbody

/-- A fork back to the beginning of a body spells the powers of the body. -/
theorem Spells.loop {a b : Nat} {greedy : Bool} (h : program.Spells a b L)
    (hfork : program[b]? = some (Program.choice greedy a (b + 1))) :
    program.Spells a (b + 1) {w | ∃ n, 1 ≤ n ∧ w ∈ L ^ n} := by
  intro buffer steps i last hi hends
  induction steps using Nat.strongRecOn generalizing i with
  | ind steps ih =>
    obtain ⟨middle, hmiddle, j, hij, hj, hword, hends⟩ := h hi hends
    obtain ⟨rest, next, rfl, hnext, hends⟩ := hends.next hfork
    have hplaces : next = ⟨a, j⟩ ∨ next = ⟨b + 1, j⟩ := by
      cases greedy with
      | true => exact List.mem_pair.mp hnext
      | false => exact (List.mem_pair.mp hnext).symm
    rcases hplaces with rfl | rfl
    · obtain ⟨rest', hrest', k, hjk, hk, ⟨n, hn, hpower⟩, hends⟩ := ih rest (by omega) hj hends
      refine ⟨rest', by omega, k, hij.trans hjk, hk, ⟨n + 1, by omega, ?_⟩, hends⟩
      rw [pow_succ']
      exact Language.mem_mul.mpr ⟨_, hword, _, hpower, Buffer.between_append hij hjk⟩
    · exact ⟨rest, by omega, j, hij, hj, ⟨1, Nat.le_refl 1, by rwa [pow_one]⟩, hends⟩

/-! ## Layouts -/

/-- A layout puts a number of instructions behind any program. -/
structure Grows (layout : Program → Program) (length : Nat) : Prop where
  size : ∀ p, (layout p).size = p.size + length
  keeps : ∀ p, p.toList <+: (layout p).toList

/-- A layout puts a number of instructions behind any program, and they spell a language, whatever is put
behind them. -/
structure Lays (layout : Program → Program) (length : Nat) (L : Language UInt8) : Prop
    extends Grows layout length where
  spells : ∀ p q : Program, (layout p).toList <+: q.toList → q.Spells p.size (p.size + length) L

variable {f g : Program → Program} {m n : Nat}

theorem keeps_push (p : Program) (instruction : Instruction) :
    p.toList <+: (p.push instruction).toList := by
  rw [Array.toList_push]
  exact List.prefix_append ..

theorem grows_push (instruction : Program → Instruction) : Grows (fun p => p.push (instruction p)) 1 where
  size _ := Array.size_push ..
  keeps p := keeps_push p (instruction p)

theorem Grows.andThen (hf : Grows f m) (hg : Grows g n) : Grows (fun p => g (f p)) (m + n) where
  size p := by rw [hg.size, hf.size, Nat.add_assoc]
  keeps p := (hf.keeps p).trans (hg.keeps (f p))

theorem Grows.times (h : Grows f n) (k : Nat) : Grows (Program.times f k) (k * n) := by
  induction k with
  | zero => exact ⟨fun p => by rw [Nat.zero_mul]; rfl, fun p => List.prefix_rfl⟩
  | succ k ih =>
    rw [Nat.succ_mul, Nat.add_comm (k * n)]
    exact h.andThen ih

/-- The instruction that is put behind a program stays where it is. -/
theorem getElem?_of_push {p q : Program} {instruction : Instruction}
    (h : (p.push instruction).toList <+: q.toList) : q[p.size]? = some instruction := by
  obtain ⟨rest, hrest⟩ := h
  rw [← Array.getElem?_toList, ← hrest]
  simp

theorem Lays.mono (h : Lays f n L) (hLM : L ≤ M) : Lays f n M :=
  { h with spells := fun p q hq => (h.spells p q hq).mono hLM }

theorem lays_nothing : Lays (fun p => p) 0 1 where
  size _ := rfl
  keeps _ := List.prefix_rfl
  spells p q _ := spells_self q p.size

theorem lays_push {instruction : Instruction}
    (h : ∀ (q : Program) (a : Nat), q[a]? = some instruction → q.Spells a (a + 1) L) :
    Lays (fun p => p.push instruction) 1 L :=
  { grows_push fun _ => instruction with
    spells := fun p q hq => h q p.size (getElem?_of_push hq) }

theorem Lays.andThen (hf : Lays f m L) (hg : Lays g n M) : Lays (fun p => g (f p)) (m + n) (L * M) :=
  { hf.toGrows.andThen hg.toGrows with
    spells := fun p q hq => by
      have hfirst := hf.spells p q ((hg.keeps (f p)).trans hq)
      have hsecond := hg.spells (f p) q hq
      rw [hf.size, Nat.add_assoc] at hsecond
      exact hfirst.trans hsecond }

theorem lays_literal (bytes : Bytes) :
    Lays (fun p => bytes.foldl (fun p byte => p.push (.take (.bytes [.single byte.toNat]))) p)
      bytes.length {bytes} := by
  induction bytes with
  | nil => exact lays_nothing
  | cons byte bytes ih =>
    -- one instruction for each byte
    have hbyte : Lays (fun p => p.push (.take (.bytes [.single byte.toNat]))) 1 {[byte]} := by
      refine lays_push fun q a hat => (spells_take hat).mono ?_
      rintro w ⟨b, hb, rfl⟩
      have hbyte : b.toNat = byte.toNat := by
        simp only [CharSet.contains, List.any_cons, List.any_nil, Range.contains, Range.single, Bool.or_false,
          Bool.and_eq_true, decide_eq_true_eq] at hb
        omega
      rw [UInt8.toNat_inj.mp hbyte]
      rfl
    have := hbyte.andThen ih
    rw [Nat.add_comm] at this
    refine this.mono ?_
    rintro w hw
    obtain ⟨_, rfl, _, rfl, rfl⟩ := Language.mem_mul.mp hw
    rfl

/-! ## Repetitions -/

theorem Lays.times (h : Lays f n L) (k : Nat) : Lays (Program.times f k) (k * n) (L ^ k) := by
  induction k with
  | zero =>
    rw [Nat.zero_mul, pow_zero]
    exact lays_nothing
  | succ k ih =>
    rw [Nat.succ_mul, Nat.add_comm (k * n), pow_succ']
    exact h.andThen ih

/-- A body with a fork behind it that goes back to its beginning. -/
theorem Lays.loop (h : Lays f n L) (greedy : Bool) :
    Lays (fun p => (f p).push (Program.choice greedy p.size (p.size + n + 1))) (n + 1)
      {w | ∃ k, 1 ≤ k ∧ w ∈ L ^ k} where
  size p := by rw [Array.size_push, h.size, Nat.add_assoc]
  keeps p := (h.keeps p).trans (keeps_push (f p) _)
  spells p q hq := by
    have hfork := getElem?_of_push hq
    rw [h.size] at hfork
    exact (h.spells p q ((keeps_push (f p) _).trans hq)).loop hfork

/-- Copies of a body, each behind a fork that may leave out all that are left. -/
theorem Lays.spells_optional (h : Lays f n L) {greedy : Bool} {exit : Nat} (k : Nat) {p q : Program}
    (hexit : p.size + k * (n + 1) = exit)
    (hq : (Program.times (fun p => f (p.push (Program.choice greedy (p.size + 1) exit))) k p).toList <+:
      q.toList) :
    q.Spells p.size exit {w | ∃ j ≤ k, w ∈ L ^ j} := by
  induction k generalizing p with
  | zero =>
    rw [Nat.zero_mul, Nat.add_zero] at hexit
    rw [hexit]
    exact (spells_self q exit).mono fun w hw => ⟨0, Nat.le_refl 0, hw⟩
  | succ k ih =>
    -- a fork and one copy of the body, then the copies that are left
    have hcopy := grows_push (fun p => Program.choice greedy (p.size + 1) exit) |>.andThen h.toGrows
    have hrest := ((hcopy.times k).keeps _).trans hq
    have hbody := h.spells _ q hrest
    have hnext := ih (by rw [hcopy.size, ← hexit, Nat.succ_mul]; omega) hq
    rw [h.size] at hnext
    have hfork := getElem?_of_push ((h.keeps _).trans hrest)
    rw [Array.size_push] at hbody hnext
    refine ((hbody.trans hnext).choice hfork (spells_self q exit)).mono ?_
    rintro w (hw | hw)
    · obtain ⟨u, hu, v, ⟨j, hj, hv⟩, rfl⟩ := Language.mem_mul.mp hw
      refine ⟨j + 1, by omega, ?_⟩
      rw [pow_succ']
      exact Language.mem_mul.mpr ⟨u, hu, v, hv, rfl⟩
    · exact ⟨0, Nat.zero_le _, hw⟩

/-- A repetition with an upper bound: the copies that there have to be, and then the others. -/
theorem Lays.bounded (h : Lays f n L) {min max : Nat} (hbounds : min ≤ max) (greedy : Bool) :
    Lays (fun p =>
        let p := Program.times f min p
        let exit := p.size + (max - min) * (n + 1)
        Program.times (fun p => f (p.push (Program.choice greedy (p.size + 1) exit))) (max - min) p)
      (min * n + (max - min) * (n + 1)) {w | ∃ k, min ≤ k ∧ (∀ m ∈ some max, k ≤ m) ∧ w ∈ L ^ k} := by
  have hcopies := h.times min
  have hoptional (exit : Nat) :=
    (((grows_push fun p => Program.choice greedy (p.size + 1) exit).andThen h.toGrows).times (max - min))
  refine ⟨⟨fun p => ?_, fun p => ?_⟩, fun p q hq => ?_⟩
  · dsimp only
    rw [(hoptional _).size, hcopies.size, Nat.add_comm 1 n, Nat.add_assoc]
  · exact (hcopies.keeps p).trans ((hoptional _).keeps _)
  · have hfirst := hcopies.spells p q (((hoptional _).keeps _).trans hq)
    have hothers := h.spells_optional (max - min) rfl hq
    rw [hcopies.size, Nat.add_assoc] at hothers
    -- `min` copies and at most `max - min` more
    refine (hfirst.trans hothers).mono ?_
    rintro w hw
    obtain ⟨u, hu, v, ⟨k, hk, hv⟩, rfl⟩ := Language.mem_mul.mp hw
    refine ⟨min + k, Nat.le_add_right min k, fun m hm => ?_, ?_⟩
    · cases hm
      omega
    · rw [pow_add]
      exact Language.mem_mul.mpr ⟨u, hu, v, hv, rfl⟩

/-- A repetition without an upper bound: the copies that there have to be but one, and then a loop. -/
theorem Lays.unbounded (h : Lays f n L) {min : Nat} (hmin : min ≠ 0) (greedy : Bool) :
    Lays (fun p =>
        let p := Program.times f (min - 1) p
        (f p).push (Program.choice greedy p.size (p.size + n + 1)))
      (min * n + 1) {w | ∃ k, min ≤ k ∧ (∀ m ∈ none, k ≤ m) ∧ w ∈ L ^ k} := by
  have hlength : (min - 1) * n + (n + 1) = min * n + 1 := by
    obtain ⟨k, rfl⟩ := Nat.exists_eq_succ_of_ne_zero hmin
    rw [Nat.succ_sub_one, Nat.succ_mul, Nat.add_assoc]
  have := (h.times (min - 1)).andThen (h.loop greedy)
  rw [hlength] at this
  refine this.mono ?_
  rintro w hw
  obtain ⟨u, hu, v, ⟨k, hk, hv⟩, rfl⟩ := Language.mem_mul.mp hw
  refine ⟨min - 1 + k, by omega, nofun, ?_⟩
  rw [pow_add]
  exact Language.mem_mul.mpr ⟨u, hu, v, hv, rfl⟩

/-- A repetition without bounds: a loop behind a fork around it. -/
theorem Lays.star (h : Lays f n L) (greedy : Bool) :
    Lays (fun p =>
        let start := p.size + 1
        let exit := start + n + 1
        (f (p.push (Program.choice greedy start exit))).push (Program.choice greedy start exit))
      (n + 2) {w | ∃ k, 0 ≤ k ∧ (∀ m ∈ none, k ≤ m) ∧ w ∈ L ^ k} := by
  have hloop := h.loop greedy
  -- the first fork jumps over the loop, the second one back to its beginning
  have hstar (p : Program) :
      (f (p.push (Program.choice greedy (p.size + 1) (p.size + 1 + n + 1)))).push
          (Program.choice greedy (p.size + 1) (p.size + 1 + n + 1)) =
        (fun p => (f p).push (Program.choice greedy p.size (p.size + n + 1)))
          (p.push (Program.choice greedy (p.size + 1) (p.size + 1 + n + 1))) := by
    dsimp only
    rw [Array.size_push]
  dsimp only
  simp only [hstar]
  have hgrows := (grows_push fun p => Program.choice greedy (p.size + 1) (p.size + 1 + n + 1)).andThen
    hloop.toGrows
  rw [Nat.add_comm 1 (n + 1)] at hgrows
  refine { hgrows with spells := fun p q hq => ?_ }
  have hbody := hloop.spells _ q hq
  have hfork := getElem?_of_push ((hloop.keeps _).trans hq)
  rw [Array.size_push] at hbody
  have hexit : p.size + 1 + (n + 1) = p.size + (n + 2) := by omega
  rw [Nat.add_assoc (p.size + 1), hexit] at hfork
  rw [hexit] at hbody
  refine (hbody.choice hfork (spells_self q _)).mono ?_
  rintro w (⟨k, -, hw⟩ | hw)
  · exact ⟨k, Nat.zero_le k, nofun, hw⟩
  · exact ⟨0, Nat.zero_le 0, nofun, hw⟩

/-! ## Parts -/

theorem lays_layOutAll (parts : List Regex)
    (h : ∀ part ∈ parts, Lays (layOut part) (length part) part.language) :
    Lays (layOutAll parts) (lengthAll parts) (Regex.languageAll parts) := by
  induction parts with
  | nil => exact lays_nothing
  | cons part parts ih =>
    exact (h part List.mem_cons_self).andThen (ih fun other hother => h other (List.mem_cons_of_mem part hother))

/-- An alternative that is not the last one, with a fork in front and a jump behind it. -/
theorem grows_alternative (h : Grows f n) (exit : Nat) :
    Grows (fun p => (f (p.push (.fork (p.size + 1) (p.size + 1 + n + 1)))).push (.jump exit)) (n + 2) := by
  have := ((grows_push fun p => .fork (p.size + 1) (p.size + 1 + n + 1)).andThen h).andThen
    (grows_push fun _ => .jump exit)
  rwa [Nat.add_comm 1 n] at this

theorem grows_layOutAny (exit : Nat) (parts : List Regex)
    (h : ∀ part ∈ parts, Grows (layOut part) (length part)) :
    Grows (layOutAny parts exit) (lengthAny parts) := by
  induction parts with
  | nil => exact lays_nothing.toGrows
  | cons part parts ih =>
    have hpart := h part List.mem_cons_self
    have hparts := ih fun other hother => h other (List.mem_cons_of_mem part hother)
    cases parts with
    | nil => exact hpart
    | cons next parts => exact (grows_alternative hpart exit).andThen hparts

/-- Alternatives go on at one place, whichever is taken. -/
theorem spells_layOutAny {exit : Nat} (part : Regex) (parts : List Regex)
    (h : ∀ r ∈ part :: parts, Lays (layOut r) (length r) r.language) {p q : Program}
    (hexit : p.size + lengthAny (part :: parts) = exit)
    (hq : (layOutAny (part :: parts) exit p).toList <+: q.toList) :
    q.Spells p.size exit (Regex.languageAny (part :: parts)) := by
  have hpart := h part List.mem_cons_self
  induction parts generalizing part p with
  | nil =>
    have := hpart.spells p q hq
    rw [← hexit]
    exact this.mono fun w hw => .inl hw
  | cons next parts ih =>
    have hothers : ∀ r ∈ next :: parts, Lays (layOut r) (length r) r.language :=
      fun r hr => h r (List.mem_cons_of_mem part hr)
    -- the fork goes to the alternative or past its jump to the others
    have hgrows := grows_alternative hpart.toGrows exit
    have hrest := ((grows_layOutAny exit (next :: parts) fun r hr => (hothers r hr).toGrows).keeps _).trans hq
    have hbody := hpart.spells _ q ((keeps_push _ _).trans hrest)
    have hjump := getElem?_of_push hrest
    have hfork := getElem?_of_push ((hpart.keeps _).trans ((keeps_push _ _).trans hrest))
    have hlength : lengthAny (part :: next :: parts) =
        length part + 2 + lengthAny (next :: parts) := rfl
    have hlater := ih next hothers (by rw [hgrows.size, ← hexit, hlength]; omega) hq
      (hothers next List.mem_cons_self)
    rw [hpart.size, Array.size_push] at hjump
    rw [Array.size_push] at hbody
    have hplace : p.size + (length part + 2) = p.size + 1 + length part + 1 := by omega
    rw [hgrows.size, hplace] at hlater
    have hfirst := hbody.trans ((spells_self q exit).jump hjump)
    rw [mul_one] at hfirst
    exact hfirst.fork hfork hlater

/-! ## Expressions -/

mutual

theorem lays_layOut : (r : Regex) → r.isRegular = true → Lays (layOut r) (length r) r.language
  | .empty, _ => lays_nothing
  | .look condition, _ => lays_push fun q a hat => spells_check hat
  | .literal bytes, _ => lays_literal bytes
  | .charClass set, _ => lays_push fun q a hat => spells_take hat
  | .capture index name body, h => lays_layOut body h
  | .repeated min max greedy body, h => by
    obtain ⟨hbounds, hbody⟩ := Bool.and_eq_true_iff.mp h
    have ih := lays_layOut body hbody
    cases max with
    | some max => exact ih.bounded (of_decide_eq_true hbounds) greedy
    | none =>
      by_cases hmin : min = 0
      · subst hmin
        exact ih.star greedy
      · have hlength : length (.repeated min none greedy body) = min * length body + 1 := if_neg hmin
        have hlayout : layOut (.repeated min none greedy body) = fun p =>
            let p := Program.times (layOut body) (min - 1) p
            (layOut body p).push (Program.choice greedy p.size (p.size + length body + 1)) :=
          funext fun p => if_neg hmin
        rw [hlength, hlayout]
        exact ih.unbounded hmin greedy
  | .concat parts, h => by
    rw [Regex.isRegular_concat, List.all_eq_true] at h
    exact lays_layOutAll parts (lays_layOut_parts parts h)
  | .alternation [], h => nomatch h
  | .alternation (part :: parts), h => by
    rw [Regex.isRegular_alternation, List.all_eq_true] at h
    have ih := lays_layOut_parts (part :: parts) h
    refine ⟨⟨fun p => ?_, fun p => ?_⟩, fun p q hq => ?_⟩
    · exact (grows_layOutAny _ _ fun r hr => (ih r hr).toGrows).size p
    · exact (grows_layOutAny _ _ fun r hr => (ih r hr).toGrows).keeps p
    · exact spells_layOutAny part parts ih rfl hq

theorem lays_layOut_parts : (parts : List Regex) → (∀ part ∈ parts, part.isRegular = true) →
    ∀ part ∈ parts, Lays (layOut part) (length part) part.language
  | [], _ => nofun
  | part :: parts, h => by
    intro r hr
    rcases List.mem_cons.mp hr with hr | hr
    · rw [hr]
      exact lays_layOut part (h part List.mem_cons_self)
    · exact lays_layOut_parts parts (fun r hr => h r (List.mem_cons_of_mem part hr)) r hr

end

/-! ## Matches -/

/-- A match that is found in a text starts where it may, and its bytes are a word of the language. -/
theorem between_mem_language_of_find {r : Regex} (hbounds : r.hasBounds = true) {buffer : Buffer}
    {position : Nat} {found : Span} (h : (ofRegex r).find buffer position = some found) :
    position ≤ found.start ∧ found.start ≤ found.stop ∧ found.stop ≤ buffer.size ∧
      buffer.between found.start found.stop ∈ r.language := by
  obtain ⟨hposition, hstart, steps, hends⟩ := ends_of_find h
  have hlays := lays_layOut r.pruned (Regex.isRegular_pruned r hbounds)
  have hspells := hlays.spells #[] (ofRegex r) List.prefix_rfl
  obtain ⟨rest, -, j, hle, hsize, hword, hends⟩ := hspells hstart hends
  -- behind the last instruction nothing is left to be done
  have hend : (ofRegex r)[(0 + length r.pruned)]? = none := by
    rw [Array.getElem?_eq_none_iff, ofRegex, hlays.size]
    exact Nat.le_refl _
  cases hends with
  | here _ =>
    rw [Regex.language_pruned] at hword
    exact ⟨hposition, hle, hsize, hword⟩
  | step hat _ _ => exact nomatch hend.symm.trans hat

end Program

end TrigramGrep
