import TrigramGrep.Pattern
import TrigramGrep.Proofs.Except
import TrigramGrep.Proofs.Regex.Bounds

/-!
# The bounds of the repetitions of a pattern

The reader of patterns refuses counts that are out of order, so the bounds of all repetitions that a pattern
is made of are in order, and those of its expression are, too.

## Shape of the proof

While a pattern is read, nodes wait at several places to become parts of others (`Progress.waiting`).  Each
step adds to them only nodes whose bounds are in order (`Progress.HasBounds.step`), and in the end the whole
pattern is made of them.  What a node means is built from what its parts mean.
-/

namespace TrigramGrep.Pattern

/-! ## Nodes -/

namespace Node

mutual

/-- Whether the bounds of every repetition in a node are in order. -/
def hasBounds : Node → Bool
  | .repetition _ min max _ body => max.all (min ≤ ·) && hasBounds body
  | .group _ _ body => hasBounds body
  | .alternation _ branches => hasBoundsAll branches
  | .concat _ parts => hasBoundsAll parts
  | _ => true

/-- Whether they are so in each of several nodes. -/
def hasBoundsAll : List Node → Bool
  | [] => true
  | node :: nodes => hasBounds node && hasBoundsAll nodes

end

theorem hasBoundsAll_iff {nodes : List Node} :
    hasBoundsAll nodes = true ↔ ∀ node ∈ nodes, node.hasBounds = true := by
  induction nodes with
  | nil => simp [hasBoundsAll]
  | cons node nodes ih => rw [hasBoundsAll, Bool.and_eq_true, ih, List.forall_mem_cons]

theorem hasBounds_ofParts {extent : Extent} {parts : List Node}
    (h : ∀ part ∈ parts, part.hasBounds = true) : (ofParts extent parts).hasBounds = true := by
  unfold ofParts
  split
  · rfl
  · exact h _ List.mem_cons_self
  · exact hasBoundsAll_iff.mpr fun part hpart => h part (List.mem_reverse.mp hpart)

end Node

/-! ## Reading single nodes -/

theorem hasBounds_of_readEscape {c behind : Cursor} {node : Node}
    (h : readEscape c = .ok (node, behind)) : node.hasBounds = true := by
  unfold readEscape at h
  simp only [bind, Except.bind, pure, Except.pure, fault, readProperty, readWordEdge] at h
  repeat' split at h
  all_goals cases h
  all_goals rfl

/-- However classes are nested, what comes of them in the end is one class. -/
theorem hasBounds_of_readItems {fuel : Nat} {frames : List ClassFrame} {current : OpenClass}
    {c behind : Cursor} {node : Node} (h : readItems fuel frames current c = .ok (node, behind)) :
    node.hasBounds = true := by
  induction fuel generalizing frames current c with
  | zero => cases h
  | succ fuel ih =>
    rw [readItems] at h
    simp only [bind, Except.bind, pure, Except.pure, fault] at h
    split at h
    · cases h
    · split at h
      · exact ih h
      · split at h
        · cases h
        · exact ih h
    · split at h
      · exact ih h
      · cases h
        rfl
    · split at h
      · exact ih h
      · split at h
        · cases h
        · exact ih h

theorem hasBounds_of_readClass {c behind : Cursor} {node : Node}
    (h : readClass c = .ok (node, behind)) : node.hasBounds = true := by
  unfold readClass at h
  obtain ⟨opening, -, h⟩ := bind_eq_ok_iff.mp h
  exact hasBounds_of_readItems h

theorem hasBounds_of_readSingle {d : Char} {c behind : Cursor} {node : Node}
    (h : Progress.readSingle d c = .ok (node, behind)) : node.hasBounds = true := by
  unfold Progress.readSingle at h
  dsimp only at h
  split at h
  · exact hasBounds_of_readEscape h
  · exact hasBounds_of_readClass h
  all_goals cases h; rfl

/-! ## Reading a pattern -/

namespace Progress

variable {p q : Progress}

/-- The nodes that have been read and are not yet parts of others. -/
def waiting (p : Progress) : List Node :=
  p.sequence.parts ++ p.branches.toList.flatMap Branches.nodes ++
    p.groups.flatMap fun group =>
      group.before.parts ++ group.branches.toList.flatMap Branches.nodes

/-- In all of them the bounds of repetitions are in order. -/
def HasBounds (p : Progress) : Prop := ∀ node ∈ p.waiting, node.hasBounds = true

theorem hasBounds_ofText (text : String) : (ofText text).HasBounds := nofun

theorem HasBounds.goOn (h : p.HasBounds) (cursor : Cursor) : { p with cursor := cursor }.HasBounds := h

theorem HasBounds.push (h : p.HasBounds) {node : Node} (hnode : node.hasBounds = true)
    (cursor : Cursor) : (p.push node cursor).HasBounds := by
  intro other hother
  rcases List.mem_cons.mp hother with rfl | hother
  · exact hnode
  · exact h other hother

theorem HasBounds.branch (h : p.HasBounds) : p.branch.hasBounds = true :=
  Node.hasBounds_ofParts fun part hpart => h part (by simp [waiting, hpart])

theorem HasBounds.body (h : p.HasBounds) : p.body.hasBounds = true := by
  unfold Progress.body
  split
  · exact h.branch
  · next branches hbranches =>
    refine Node.hasBoundsAll_iff.mpr fun node hnode => ?_
    rcases List.mem_cons.mp (List.mem_reverse.mp hnode) with rfl | hnode
    · exact h.branch
    · exact h node (by simp [waiting, hbranches, hnode])

theorem HasBounds.nextBranch (h : p.HasBounds) : p.nextBranch.HasBounds := by
  intro node hnode
  have hcases : node = p.branch ∨ node ∈ p.waiting := by
    cases hbranches : p.branches with
    | none =>
      simp only [waiting, Progress.nextBranch, hbranches] at hnode ⊢
      grind
    | some branches =>
      simp only [waiting, Progress.nextBranch, hbranches] at hnode ⊢
      grind
  rcases hcases with rfl | hnode
  · exact h.branch
  · exact h node hnode

theorem HasBounds.enter (h : p.HasBounds) (place : Nat) (kind : GroupKind) (cursor : Cursor) :
    (p.enter place kind cursor).HasBounds := by
  intro node hnode
  refine h node ?_
  simpa [waiting, Progress.enter, or_assoc] using hnode

theorem HasBounds.openGroup (h : p.HasBounds) (hstep : p.openGroup = .ok q) : q.HasBounds := by
  unfold Progress.openGroup at hstep
  simp only [bind, Except.bind, pure, Except.pure, fault] at hstep
  split at hstep
  · cases hstep
  split at hstep
  · -- a group with a name
    split at hstep
    · cases hstep
    split at hstep
    · cases hstep
    split at hstep
    · cases hstep
    · cases hstep
      exact HasBounds.enter (p := { p with numbered := _, names := _ }) h _ _ _
  split at hstep
  · -- a group with a number
    cases hstep
    exact HasBounds.enter (p := { p with numbered := _ }) h _ _ _
  split at hstep
  · cases hstep
  split at hstep
  · cases hstep
  split at hstep
  · -- flags alone
    split at hstep
    · cases hstep
    · cases hstep
      exact h.push rfl _
  · -- a group with flags
    cases hstep
    exact h.enter _ _ _

theorem HasBounds.closeGroup (h : p.HasBounds) (hstep : p.closeGroup = .ok q) : q.HasBounds := by
  unfold Progress.closeGroup at hstep
  split at hstep
  · cases hstep
  · next group groups hgroups =>
    cases hstep
    refine HasBounds.push (fun node hnode => h node ?_) (Node.hasBounds.eq_def _ ▸ h.body) _
    simp only [waiting, hgroups, List.flatMap_cons, List.mem_append] at hnode ⊢
    exact .inr hnode

theorem HasBounds.repeatPart (h : p.HasBounds) {min : Nat} {max : Option Nat} {part : Node}
    {parts : List Node} (hpart : p.repeatedPart = .ok (part, parts)) (hbounds : max.all (min ≤ ·) = true)
    (greedy : Bool) (cursor : Cursor) : (p.repeatPart min max greedy part parts cursor).HasBounds := by
  unfold repeatedPart at hpart
  split at hpart
  · next part' parts' hparts =>
    split at hpart
    · cases hpart
      have hlast := h part (by simp [waiting, hparts])
      intro node hnode
      rcases List.mem_cons.mp hnode with rfl | hnode
      · exact Bool.and_eq_true_iff.mpr ⟨hbounds, hlast⟩
      · refine h node ?_
        simp only [waiting, hparts]
        exact List.mem_cons_of_mem part hnode
    · cases hpart
  · cases hpart

theorem HasBounds.repeatBySign (h : p.HasBounds) {min : Nat} {max : Option Nat}
    (hbounds : max.all (min ≤ ·) = true) (hstep : p.repeatBySign min max = .ok q) : q.HasBounds := by
  unfold Progress.repeatBySign at hstep
  obtain ⟨⟨part, parts⟩, hpart, hstep⟩ := bind_eq_ok_iff.mp hstep
  cases hstep
  exact h.repeatPart hpart hbounds _ _

/-- Counts that are out of order are refused. -/
theorem HasBounds.repeatByCount (h : p.HasBounds) (hstep : p.repeatByCount = .ok q) : q.HasBounds := by
  unfold Progress.repeatByCount at hstep
  obtain ⟨⟨part, parts⟩, hpart, hstep⟩ := bind_eq_ok_iff.mp hstep
  obtain ⟨⟨⟨min, max⟩, behind⟩, -, hstep⟩ := bind_eq_ok_iff.mp hstep
  dsimp only at hstep
  split at hstep
  · cases hstep
  · next horder =>
    cases hstep
    refine h.repeatPart hpart ?_ _ _
    cases max with
    | none => rfl
    | some max => exact decide_eq_true (Nat.le_of_not_lt fun hlt => horder (decide_eq_true hlt))

theorem HasBounds.step (h : p.HasBounds) {d : Char} (hstep : p.step d = .ok q) : q.HasBounds := by
  unfold Progress.step at hstep
  split at hstep
  · exact h.openGroup hstep
  · exact h.closeGroup hstep
  · cases hstep
    exact h.nextBranch
  · exact h.repeatBySign rfl hstep
  · exact h.repeatBySign rfl hstep
  · exact h.repeatBySign rfl hstep
  · exact h.repeatByCount hstep
  · obtain ⟨⟨node, behind⟩, hsingle, hstep⟩ := bind_eq_ok_iff.mp hstep
    cases hstep
    exact h.push (hasBounds_of_readSingle hsingle) _

theorem HasBounds.finish (h : p.HasBounds) {node : Node} (hfinish : p.finish = .ok node) :
    node.hasBounds = true := by
  unfold Progress.finish at hfinish
  split at hfinish
  · cases hfinish
  · cases hfinish
    exact h.body

theorem HasBounds.run {fuel : Nat} (h : p.HasBounds) {node : Node} (hrun : run fuel p = .ok node) :
    node.hasBounds = true := by
  induction fuel generalizing p with
  | zero => exact h.finish hrun
  | succ fuel ih =>
    rw [Progress.run] at hrun
    dsimp only at hrun
    split at hrun
    · exact (h.goOn _).finish hrun
    · obtain ⟨next, hstep, hrun⟩ := bind_eq_ok_iff.mp hrun
      exact ih ((h.goOn _).step hstep) hrun

end Progress

theorem hasBounds_nodeOfText {text : String} {node : Node} (h : Node.ofText text = .ok node) :
    node.hasBounds = true := by
  unfold Node.ofText at h
  obtain ⟨read, hrun, h⟩ := bind_eq_ok_iff.mp h
  split at h
  · cases h
  · cases h
    exact (Progress.hasBounds_ofText text).run hrun

/-! ## Meanings -/

theorem hasBounds_letter (f : Flags) (letter : Letter) : (letter.toRegex f).hasBounds = true := by
  unfold Letter.toRegex
  split
  · exact Regex.hasBounds_ofLiteral _
  · have hasCase (b : Bool) : (if b then Regex.ofClass (classOf f (foldSet f [.single letter.char.toNat]))
        else .ofLiteral (Text.Utf8.encode letter.char.toNat)).hasBounds = true := by
      cases b with
      | true => exact Regex.hasBounds_ofClass _
      | false => exact Regex.hasBounds_ofLiteral _
    exact hasCase _

theorem hasBounds_dot (f : Flags) : (dotRegex f).hasBounds = true := by
  unfold dotRegex
  dsimp only
  split <;> rfl

theorem hasBounds_wrap (kind : GroupKind) {body : Regex} (h : body.hasBounds = true) :
    (kind.wrap body).hasBounds = true := by
  cases kind <;> exact h

mutual

theorem hasBounds_of_meaning : (node : Node) → node.hasBounds = true → ∀ {f g : Flags} {r : Regex},
    node.meaning f = .ok (r, g) → r.hasBounds = true
  | .empty _, _, f, _, _, h | .flags _ _, _, f, _, _, h | .assertion _ _, _, f, _, _, h => by
    cases h
    rfl
  | .letter letter, _, f, _, _, h => by
    cases h
    exact hasBounds_letter f letter
  | .dot _, _, f, _, _, h => by
    cases h
    exact hasBounds_dot f
  | .shorthand _ _ _, _, f, _, _, h => by
    cases h
    exact Regex.hasBounds_ofClass _
  | .property _ _ _, _, f, _, _, h | .bracketed _ _ _, _, f, _, _, h => by
    rw [Node.meaning] at h
    obtain ⟨set, -, h⟩ := bind_eq_ok_iff.mp h
    cases h
    exact Regex.hasBounds_ofClass _
  | .repetition _ min max greedy body, hnode, f, _, _, h => by
    obtain ⟨hbounds, hbody⟩ := Bool.and_eq_true_iff.mp hnode
    rw [Node.meaning] at h
    obtain ⟨⟨r, g⟩, hmeaning, h⟩ := bind_eq_ok_iff.mp h
    cases h
    exact Regex.hasBounds_ofRepetition hbounds (hasBounds_of_meaning body hbody hmeaning)
  | .group _ kind body, hnode, f, _, _, h => by
    rw [Node.meaning] at h
    obtain ⟨⟨r, g⟩, hmeaning, h⟩ := bind_eq_ok_iff.mp h
    cases h
    exact hasBounds_wrap kind (hasBounds_of_meaning body hnode hmeaning)
  | .alternation _ branches, hnode, f, _, _, h => by
    rw [Node.meaning] at h
    obtain ⟨⟨rs, g⟩, hmeanings, h⟩ := bind_eq_ok_iff.mp h
    cases h
    exact Regex.hasBounds_ofAlternation (hasBounds_of_meanings branches hnode hmeanings)
  | .concat _ parts, hnode, f, _, _, h => by
    rw [Node.meaning] at h
    obtain ⟨⟨rs, g⟩, hmeanings, h⟩ := bind_eq_ok_iff.mp h
    cases h
    exact Regex.hasBounds_ofConcat (hasBounds_of_meanings parts hnode hmeanings)

theorem hasBounds_of_meanings : (nodes : List Node) → Node.hasBoundsAll nodes = true →
    ∀ {f g : Flags} {rs : List Regex}, Node.meanings f nodes = .ok (rs, g) →
      ∀ r ∈ rs, r.hasBounds = true
  | [], _, f, _, _, h => by
    cases h
    nofun
  | node :: nodes, hnodes, f, _, _, h => by
    obtain ⟨hnode, hnodes⟩ := Bool.and_eq_true_iff.mp hnodes
    rw [Node.meanings] at h
    obtain ⟨⟨r, g⟩, hfirst, h⟩ := bind_eq_ok_iff.mp h
    obtain ⟨⟨rs, k⟩, hrest, h⟩ := bind_eq_ok_iff.mp h
    cases h
    refine List.forall_mem_cons.mpr ⟨?_, ?_⟩
    · exact hasBounds_of_meaning node hnode hfirst
    · exact hasBounds_of_meanings nodes hnodes hrest

end

/-- The bounds of all repetitions of a pattern are in order. -/
theorem hasBounds_ofText {ignoreCase : Bool} {text : String} {pattern : Pattern}
    (h : Pattern.ofText ignoreCase text = .ok pattern) : pattern.regex.hasBounds = true := by
  unfold Pattern.ofText at h
  split at h
  · cases h
  · next regex hregex =>
    have hbounds : regex.hasBounds = true := by
      obtain ⟨node, hnode, hregex⟩ := bind_eq_ok_iff.mp hregex
      obtain ⟨⟨r, f⟩, hmeaning, hregex⟩ := bind_eq_ok_iff.mp hregex
      cases hregex
      exact hasBounds_of_meaning node (hasBounds_nodeOfText hnode) hmeaning
    split at h
    · cases h
      exact hbounds
    · cases h

end TrigramGrep.Pattern
