import TrigramGrep.FileSystem.Tree

/-!
# Changing a tree in one place

Putting a node into a directory changes what is found there and below, and nothing else; taking it away
again gives the tree back.
-/

namespace TrigramGrep.FileTree

/-! ## Entries -/

variable {name : Bytes} {entries : List (Bytes × FileTree)}

private theorem lookup_cons_of_ne {other : Bytes} (child : FileTree) (h : name ≠ other) :
    ((other, child) :: entries).lookup name = entries.lookup name := by
  rw [List.lookup_cons, beq_false_of_ne h]

@[simp] theorem lookup_setEntry_self (node : FileTree) :
    (setEntry name (some node) entries).lookup name = some node := by
  induction entries with
  | nil => simp [setEntry]
  | cons entry entries ih =>
    obtain ⟨other, child⟩ := entry
    rw [setEntry]
    split
    · simp
    · next hne => rw [lookup_cons_of_ne child (Ne.symm hne), ih]

theorem lookup_setEntry_of_ne {other : Bytes} (h : other ≠ name) (node : Option FileTree) :
    (setEntry name node entries).lookup other = entries.lookup other := by
  induction entries with
  | nil =>
    cases node with
    | none => rfl
    | some node => exact lookup_cons_of_ne node h
  | cons entry entries ih =>
    obtain ⟨first, child⟩ := entry
    rw [setEntry]
    split
    · next heq =>
      subst heq
      rw [lookup_cons_of_ne child h]
      cases node with
      | none => rfl
      | some node => exact lookup_cons_of_ne node h
    · simp only [List.lookup_cons, ih]

/-- Of two changes of one entry the second counts. -/
theorem setEntry_setEntry (node : FileTree) (last : Option FileTree) :
    setEntry name last (setEntry name (some node) entries) = setEntry name last entries := by
  induction entries with
  | nil => simp [setEntry]
  | cons entry entries ih =>
    obtain ⟨other, child⟩ := entry
    by_cases h : other = name
    · simp [setEntry, h]
    · simp only [setEntry, if_neg h, ih]

theorem setEntry_eq_self {child : FileTree} (h : entries.lookup name = some child) :
    setEntry name (some child) entries = entries := by
  induction entries with
  | nil => simp at h
  | cons entry entries ih =>
    obtain ⟨other, node⟩ := entry
    by_cases hne : other = name
    · subst hne
      obtain rfl : node = child := by simpa using h
      simp [setEntry]
    · rw [lookup_cons_of_ne node (Ne.symm hne)] at h
      rw [setEntry, if_neg hne, ih h]

/-- Taking away an entry that is not there changes nothing. -/
theorem setEntry_none_eq_self (h : entries.lookup name = none) : setEntry name none entries = entries := by
  induction entries with
  | nil => rfl
  | cons entry entries ih =>
    obtain ⟨other, node⟩ := entry
    by_cases hne : other = name
    · subst hne
      simp at h
    · rw [lookup_cons_of_ne node (Ne.symm hne)] at h
      rw [setEntry, if_neg hne, ih h]

/-! ## Nodes -/

theorem at?_append (names more : List Bytes) (tree : FileTree) :
    tree.at? (names ++ more) = (tree.at? names).bind fun node => node.at? more := by
  induction names generalizing tree with
  | nil => rfl
  | cons name names ih =>
    rw [List.cons_append, at?, at?]
    cases tree.entry? name with
    | none => rfl
    | some child => exact ih child

/-- What stands under a name of a directory. -/
theorem at?_append_singleton {tree : FileTree} {names : List Bytes}
    (h : tree.at? names = some (.directory entries)) :
    tree.at? (names ++ [name]) = entries.lookup name := by
  rw [at?_append, h, Option.bind_some, at?]
  cases hentry : FileTree.entry? (directory entries) name <;> exact hentry.symm

/-- No node stands at or below a name that is free. -/
theorem not_below_free {tree node : FileTree} {parent names : List Bytes}
    (h : tree.at? parent = some (.directory entries)) (hfree : entries.lookup name = none)
    (hnode : tree.at? names = some node) : ¬ (parent ++ [name]) <+: names := by
  rintro ⟨more, rfl⟩
  rw [at?_append, at?_append_singleton h, hfree] at hnode
  cases hnode

/-- A node that another one stands below is a directory. -/
theorem exists_directory_above {tree node : FileTree} {names more : List Bytes} (hmore : more ≠ [])
    (h : tree.at? (names ++ more) = some node) : ∃ entries, tree.at? names = some (.directory entries) := by
  rw [at?_append] at h
  obtain ⟨above, habove, hnode⟩ := Option.bind_eq_some_iff.mp h
  obtain ⟨name, rest, rfl⟩ := List.exists_cons_of_ne_nil hmore
  rw [at?] at hnode
  cases above with
  | directory entries => exact ⟨entries, habove⟩
  | file content => cases hnode
  | link target => cases hnode
  | special reading => cases hnode

/-- A tree that has a node under a name is a directory. -/
theorem eq_directory_of_lookup {tree child : FileTree} (h : tree.entry? name = some child) :
    ∃ entries, tree = .directory entries ∧ entries.lookup name = some child := by
  cases tree with
  | directory entries => exact ⟨entries, rfl, h⟩
  | file content => simp [FileTree.entries, entry?] at h
  | link target => simp [FileTree.entries, entry?] at h
  | special reading => simp [FileTree.entries, entry?] at h

/-- Two nodes that a path cannot tell apart before it goes on: they are equal, or both are directories. -/
def Alike (a b : Option FileTree) : Prop :=
  a = b ∨ ∃ entries others, a = some (.directory entries) ∧ b = some (.directory others)

theorem Alike.refl (a : Option FileTree) : Alike a a := .inl rfl

/-- The tree below one name of a directory. -/
private theorem set_cons_of_lookup {names : List Bytes} {child : FileTree} (hnames : names ≠ [])
    (h : entries.lookup name = some child) (node : Option FileTree) :
    (directory entries).set (name :: names) node =
      .directory (setEntry name (some (child.set names node)) entries) := by
  cases names with
  | nil => exact absurd rfl hnames
  | cons next names =>
    rw [set, entry?, FileTree.entries, h, Option.getD_some]
    exact List.cons_ne_nil _ _

section Place

variable {parent : List Bytes} {tree : FileTree}

/-- A node that was put somewhere is found there. -/
theorem at?_set_self (h : tree.at? parent = some (.directory entries)) (node : FileTree) :
    (tree.set (parent ++ [name]) (some node)).at? (parent ++ [name]) = some node := by
  induction parent generalizing tree with
  | nil =>
    obtain rfl : tree = .directory entries := by simpa [at?] using h
    simp [set, at?, entry?, FileTree.entries]
  | cons first parent ih =>
    rw [at?] at h
    split at h
    · next child hchild =>
      obtain ⟨others, rfl, hlookup⟩ := eq_directory_of_lookup hchild
      rw [List.cons_append, set_cons_of_lookup (by simp) hlookup, at?, entry?, FileTree.entries,
        lookup_setEntry_self]
      exact ih h
    · cases h

/-- Elsewhere it makes no difference. -/
theorem alike_set (h : tree.at? parent = some (.directory entries)) (node : Option FileTree)
    {names : List Bytes} (hnames : ¬ (parent ++ [name]) <+: names) :
    Alike (tree.at? names) ((tree.set (parent ++ [name]) node).at? names) := by
  induction parent generalizing tree names with
  | nil =>
    obtain rfl : tree = .directory entries := by simpa [at?] using h
    cases names with
    | nil => exact .inr ⟨_, _, rfl, rfl⟩
    | cons other names =>
      have hne : other ≠ name := by
        rintro rfl
        exact hnames (by simp)
      refine .inl ?_
      simp only [List.nil_append, set, at?, entry?, FileTree.entries, lookup_setEntry_of_ne hne]
  | cons first parent ih =>
    rw [at?] at h
    split at h
    · next child hchild =>
      obtain ⟨others, rfl, hlookup⟩ := eq_directory_of_lookup hchild
      -- the change lies below `first`, and only names that begin with it can tell
      rw [List.cons_append, set_cons_of_lookup (by simp) hlookup]
      cases names with
      | nil => exact .inr ⟨_, _, rfl, rfl⟩
      | cons other names =>
        simp only [at?, entry?, FileTree.entries]
        by_cases hne : other = first
        · subst hne
          rw [lookup_setEntry_self, hlookup]
          exact ih h fun hbefore => hnames (by simpa using hbefore)
        · rw [lookup_setEntry_of_ne hne]
          exact .refl _
    · cases h

/-- Of two nodes that are put in one place the second counts. -/
theorem set_set (h : tree.at? parent = some (.directory entries)) (node : FileTree) (last : Option FileTree) :
    (tree.set (parent ++ [name]) (some node)).set (parent ++ [name]) last = tree.set (parent ++ [name]) last := by
  induction parent generalizing tree with
  | nil =>
    obtain rfl : tree = .directory entries := by simpa [at?] using h
    simp [set, FileTree.entries, setEntry_setEntry]
  | cons first parent ih =>
    rw [at?] at h
    split at h
    · next child hchild =>
      obtain ⟨others, rfl, hlookup⟩ := eq_directory_of_lookup hchild
      rw [List.cons_append, set_cons_of_lookup (by simp) hlookup,
        set_cons_of_lookup (by simp) (lookup_setEntry_self _), setEntry_setEntry, ih h,
        ← set_cons_of_lookup (by simp) hlookup]
    · cases h

/-- To take away what is not there changes nothing. -/
theorem set_none (h : tree.at? parent = some (.directory entries)) (hnone : entries.lookup name = none) :
    tree.set (parent ++ [name]) none = tree := by
  induction parent generalizing tree with
  | nil =>
    obtain rfl : tree = .directory entries := by simpa [at?] using h
    simp [set, FileTree.entries, setEntry_none_eq_self hnone]
  | cons first parent ih =>
    rw [at?] at h
    split at h
    · next child hchild =>
      obtain ⟨others, rfl, hlookup⟩ := eq_directory_of_lookup hchild
      rw [List.cons_append, set_cons_of_lookup (by simp) hlookup, ih h, setEntry_eq_self hlookup]
    · cases h

/-- Taking away what was put where nothing was gives the tree back. -/
theorem set_none_set (h : tree.at? parent = some (.directory entries))
    (hnone : entries.lookup name = none) (node : FileTree) :
    (tree.set (parent ++ [name]) (some node)).set (parent ++ [name]) none = tree := by
  rw [set_set h, set_none h hnone]

end Place

end TrigramGrep.FileTree
