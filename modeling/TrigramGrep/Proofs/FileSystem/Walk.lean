import Mathlib
import TrigramGrep.Index.Build
import TrigramGrep.Proofs.FileSystem.Resolve

/-!
# What a walk finds

What is relied on of walks is `Walker.IsDepthFirst`: they come to the nodes of a tree in the order of
`FileTree.visits`.  So the regular files under a root are found that are reached through directories and names that
are not passed over, each once.  They come in the order of the names on the way to them, the first name that differs
deciding: since the entries of a directory are sorted and what a directory holds stands in its place, the order of
each directory is that of all the paths through it.  This is not the order of the paths as texts: a slash is greater
than some bytes of names.

## Shape of the proof

`FileTree.Walked` says at which lists of names a walk through a tree finds files, whatever the path of the tree is.
There is one lemma for each kind of node, and `FileTree.Proper.exists_walked` is the induction over the tree.
-/

namespace TrigramGrep

/-! ## Trees of a file system -/

namespace FileTree

/-- Whether a byte string can be the name of an entry. -/
def IsEntryName (name : Bytes) : Prop := FileSystem.IsName name ∧ Path.slash ∉ name

instance (name : Bytes) : Decidable (IsEntryName name) :=
  inferInstanceAs (Decidable ((Path.isIdle name = false ∧ name ≠ Path.above) ∧ Path.slash ∉ name))

/-- Trees as file systems have them: the entries of a directory have different names, and proper ones. -/
inductive Proper : FileTree → Prop
  | file (content : Bytes) : Proper (.file content)
  | link (target : Path) : Proper (.link target)
  | special (reading : Option Bytes) : Proper (.special reading)
  | directory {entries : List (Bytes × FileTree)} (nodup : (entries.map Prod.fst).Nodup)
      (names : ∀ entry ∈ entries, IsEntryName entry.1) (below : ∀ entry ∈ entries, Proper entry.2) :
      Proper (.directory entries)

variable {tree node : FileTree} {names : List Bytes} {name : Bytes} {entries : List (Bytes × FileTree)}

/-- Where names differ, an entry is found under its name. -/
theorem lookup_eq_some_iff (hnodup : (entries.map Prod.fst).Nodup) :
    entries.lookup name = some node ↔ (name, node) ∈ entries := by
  induction entries with
  | nil => simp
  | cons entry entries ih =>
    obtain ⟨first, child⟩ := entry
    rw [List.map_cons, List.nodup_cons] at hnodup
    rw [List.mem_cons, List.lookup_cons]
    by_cases hname : name = first
    · subst hname
      have hrest : (name, node) ∉ entries := fun hmem => hnodup.1 (List.mem_map.mpr ⟨_, hmem, rfl⟩)
      simp [hrest, eq_comm]
    · simp [hname, beq_false_of_ne hname, ih hnodup.2]

/-- The names that lead through a proper tree are proper. -/
theorem Proper.isEntryName (h : tree.Proper) (hat : tree.at? names = some node) :
    ∀ name ∈ names, IsEntryName name := by
  induction names generalizing tree with
  | nil => exact fun _ hmem => absurd hmem List.not_mem_nil
  | cons first names ih =>
    rw [at?] at hat
    split at hat
    · next child hchild =>
      obtain ⟨entries, rfl, hlookup⟩ := eq_directory_of_lookup hchild
      cases h with
      | directory hnodup hnames hbelow =>
        have hmem := (lookup_eq_some_iff hnodup).mp hlookup
        exact List.forall_mem_cons.mpr ⟨hnames _ hmem, ih (hbelow _ hmem) hat⟩
    · cases hat

/-- What stands at names in a proper tree is proper. -/
theorem Proper.at? (h : tree.Proper) (hat : tree.at? names = some node) : node.Proper := by
  induction names generalizing tree with
  | nil => exact Option.some.inj hat ▸ h
  | cons first names ih =>
    rw [FileTree.at?] at hat
    split at hat
    · next child hchild =>
      obtain ⟨entries, rfl, hlookup⟩ := eq_directory_of_lookup hchild
      cases h with
      | directory hnodup _ hbelow => exact ih (hbelow _ ((lookup_eq_some_iff hnodup).mp hlookup)) hat
    · cases hat

/-! ## One directory -/

/-- The entries of a directory that are not passed over, in the order of their names. -/
def visibleEntries (entries : List (Bytes × FileTree)) : List (Bytes × FileTree) :=
  (entries.filter fun entry => !isSkippedName entry.1).mergeSort fun a b => Bytes.le a.1 b.1

theorem mem_visibleEntries {entry : Bytes × FileTree} :
    entry ∈ visibleEntries entries ↔ entry ∈ entries ∧ isSkippedName entry.1 = false := by
  rw [visibleEntries, List.mem_mergeSort, List.mem_filter, Bool.not_eq_true']

theorem visitsOfEntries_eq (enters : Nat → Bytes → Bool) (path : Path) (depth : Nat)
    (entries : List (Bytes × FileTree)) :
    visitsOfEntries enters path depth entries = (entries.filter fun entry => enters depth entry.1).map fun entry =>
      (entry.1, visits enters (path.join entry.1) depth entry.2) := by
  induction entries with
  | nil => rfl
  | cons entry entries ih =>
    obtain ⟨name, node⟩ := entry
    rw [visitsOfEntries, ih]
    cases henters : enters depth name <;> simp [henters]

/-- A directory is visited first, and then what is at and under its visible entries, one entry after the other. -/
theorem visits_directory (path : Path) (depth : Nat) (entries : List (Bytes × FileTree)) :
    visits Index.enters path depth (.directory entries) = ⟨path, depth, some .directory⟩ ::
      (visibleEntries entries).flatMap fun entry =>
        visits Index.enters (path.join entry.1) (depth + 1) entry.2 := by
  have hfilter : (entries.filter fun entry => Index.enters (depth + 1) entry.1) =
      entries.filter fun entry => !isSkippedName entry.1 := rfl
  have hsort : ((entries.filter fun entry => !isSkippedName entry.1).map fun entry =>
        (entry.1, visits Index.enters (path.join entry.1) (depth + 1) entry.2)).mergeSort
          (fun a b => Bytes.le a.1 b.1) =
      (visibleEntries entries).map fun entry =>
        (entry.1, visits Index.enters (path.join entry.1) (depth + 1) entry.2) := by
    rw [visibleEntries, List.map_mergeSort]
    exact fun _ _ _ _ => rfl
  rw [visits, visitsOfEntries_eq, hfilter, hsort, List.flatMap_map]

/-- The names of the visible entries ascend. -/
theorem pairwise_visibleEntries (hnodup : (entries.map Prod.fst).Nodup) :
    (visibleEntries entries).Pairwise fun a b => a.1 < b.1 := by
  have hsorted : (visibleEntries entries).Pairwise fun a b => Bytes.le a.1 b.1 = true :=
    List.pairwise_mergeSort (fun _ _ _ hab hbc => by
      simp only [Bytes.le, decide_eq_true_eq] at hab hbc ⊢
      exact List.le_trans hab hbc) (fun a b => by
      simp only [Bytes.le, Bool.or_eq_true, decide_eq_true_eq]
      exact List.le_total a.1 b.1) _
  have hne : (visibleEntries entries).Pairwise fun a b => a.1 ≠ b.1 := by
    refine ((List.mergeSort_perm _ _).pairwise_iff (fun hab => hab.symm)).mpr ?_
    exact (List.pairwise_map.mp hnodup).filter _
  exact (hsorted.and hne).imp fun ⟨hle, hne⟩ => Std.lt_of_le_of_ne (of_decide_eq_true hle) hne

/-! ## Whole trees -/

/-- A walk through a tree finds the files at certain names, whatever the path of the tree is: those of its regular
files to which no name leads that is passed over, and in the order of their names. -/
structure Walked (tree : FileTree) (found : List (List Bytes)) : Prop where
  files : ∀ path depth, (tree.visits Index.enters path depth).filterMap Visit.file? =
    found.map fun names => names.foldl Path.join path
  mem : ∀ names, names ∈ found ↔
    (∃ content, tree.at? names = some (.file content)) ∧ ∀ name ∈ names, isSkippedName name = false
  sorted : found.Pairwise (· < ·)

theorem walked_file (content : Bytes) : Walked (.file content) [[]] where
  files _ _ := by rw [visits]; rfl
  mem names := by
    cases names with
    | nil => simp [FileTree.at?]
    | cons name names => simp [FileTree.at?, entry?, FileTree.entries]
  sorted := List.pairwise_singleton _ _

/-- In what is neither a file nor a directory there is nothing to find. -/
theorem walked_nil (hfile : ∀ content, tree ≠ .file content) (hentries : tree.entries = [])
    (hvisits : ∀ path depth, ∃ kind, kind ≠ NodeKind.file ∧
      tree.visits Index.enters path depth = [⟨path, depth, some kind⟩]) : Walked tree [] where
  files path depth := by
    obtain ⟨kind, hkind, hvisits⟩ := hvisits path depth
    rw [hvisits]
    simp [Visit.file?, hkind]
  mem names := by
    cases names with
    | nil => simpa [FileTree.at?] using hfile
    | cons name names => simp [FileTree.at?, entry?, hentries]
  sorted := .nil

theorem walked_link (target : Path) : Walked (.link target) [] :=
  walked_nil nofun rfl fun _ _ => ⟨.link, nofun, by rw [visits]⟩

theorem walked_special (reading : Option Bytes) : Walked (.special reading) [] :=
  walked_nil nofun rfl fun _ _ => ⟨.special, nofun, by rw [visits]⟩

/-- A walk through a directory goes through its visible entries. -/
theorem walked_directory (hnodup : (entries.map Prod.fst).Nodup) {found : Bytes × FileTree → List (List Bytes)}
    (hfound : ∀ entry ∈ entries, Walked entry.2 (found entry)) :
    Walked (.directory entries)
      ((visibleEntries entries).flatMap fun entry => (found entry).map (entry.1 :: ·)) where
  files path depth := by
    have hself : Visit.file? ⟨path, depth, some .directory⟩ = none := if_neg nofun
    rw [visits_directory, List.filterMap_cons_none hself, List.filterMap_flatMap, List.map_flatMap]
    refine List.flatMap_congr fun entry hentry => ?_
    rw [(hfound entry (mem_visibleEntries.mp hentry).1).files, List.map_map]
    rfl
  mem names := by
    simp only [List.mem_flatMap, mem_visibleEntries, List.mem_map]
    constructor
    · rintro ⟨⟨name, child⟩, ⟨hmem, hskip⟩, rest, hrest, rfl⟩
      obtain ⟨⟨content, hat⟩, hskips⟩ := ((hfound _ hmem).mem rest).mp hrest
      refine ⟨⟨content, ?_⟩, List.forall_mem_cons.mpr ⟨hskip, hskips⟩⟩
      rw [FileTree.at?, entry?, FileTree.entries, (lookup_eq_some_iff hnodup).mpr hmem]
      exact hat
    · rintro ⟨⟨content, hat⟩, hskips⟩
      cases names with
      | nil => cases hat
      | cons name rest =>
        obtain ⟨hskip, hskips⟩ := List.forall_mem_cons.mp hskips
        rw [FileTree.at?] at hat
        split at hat
        · next child hchild =>
          have hmem := (lookup_eq_some_iff hnodup).mp hchild
          exact ⟨(name, child), ⟨hmem, hskip⟩, rest, ((hfound _ hmem).mem rest).mpr ⟨⟨content, hat⟩, hskips⟩, rfl⟩
        · cases hat
  sorted := by
    refine List.pairwise_flatMap.mpr ⟨fun entry hentry => ?_, ?_⟩
    · -- behind the name of one entry the order is that of the entry
      have hsorted := (hfound entry (mem_visibleEntries.mp hentry).1).sorted
      exact List.pairwise_map.mpr (hsorted.imp fun hlt => List.cons_lt_cons_iff.mpr (.inr ⟨rfl, hlt⟩))
    · refine (pairwise_visibleEntries hnodup).imp fun hlt names hnames others hothers => ?_
      obtain ⟨_, -, rfl⟩ := List.mem_map.mp hnames
      obtain ⟨_, -, rfl⟩ := List.mem_map.mp hothers
      exact List.cons_lt_cons_iff.mpr (.inl hlt)

theorem Proper.exists_walked (h : tree.Proper) : ∃ found, Walked tree found := by
  induction h with
  | file content => exact ⟨_, walked_file content⟩
  | link target => exact ⟨_, walked_link target⟩
  | special reading => exact ⟨_, walked_special reading⟩
  | directory hnodup _ _ ih =>
    choose! found hfound using ih
    exact ⟨_, walked_directory hnodup hfound⟩

end FileTree

/-! ## Names of the files that are found -/

namespace Path

theorem names_join {directory entry : Path} (hdirectory : directory ≠ []) (hentry : FileTree.IsEntryName entry) :
    (directory.join entry).names = directory.names ++ [entry] := by
  obtain ⟨above, hpieces, habove⟩ := pieces_join hdirectory hentry.2
  have hentries : [entry].filter (fun piece => !isIdle piece) = [entry] := by
    rw [List.filter_singleton, hentry.1.1]
    rfl
  rw [names, names, hpieces, List.filter_append, hentries]
  rcases habove with heq | heq
  · rw [heq]
  · rw [heq, List.filter_append]
    simp [isIdle]

/-- The names of an entry that is reached from a directory. -/
theorem names_foldl_join {directory : Path} {entries : List Bytes} (hdirectory : directory ≠ [])
    (hentries : ∀ entry ∈ entries, FileTree.IsEntryName entry) :
    (entries.foldl join directory).names = directory.names ++ entries := by
  induction entries generalizing directory with
  | nil => rw [List.foldl_nil, List.append_nil]
  | cons entry entries ih =>
    obtain ⟨hentry, hentries⟩ := List.forall_mem_cons.mp hentries
    have hjoin : directory.join entry ≠ [] := by
      rw [join_eq hdirectory hentry.2]
      exact List.append_ne_nil_of_left_ne_nil hdirectory _
    rw [List.foldl_cons, ih hjoin hentries, names_join hdirectory hentry, List.append_assoc,
      List.singleton_append]

end Path

/-! ## Roots -/

open FileSystem

/-- What is relied on of walks.  A walk is asked for by a filter that enters the root; what is said of files is said
of the nodes that it comes to, in their order. -/
structure Walker.IsDepthFirst (walk : Walker) : Prop where
  /-- Standard input is no node of a tree. -/
  input : ∀ enters fs root, isStandardInput root = true → walk enters fs root = [.ok ⟨root, 0, none⟩]
  /-- A root that leads nowhere is an error. -/
  unreachable : ∀ enters fs root e, isStandardInput root = false → fs.node root = .error e →
    walk enters fs root = [.error (root, e)]
  /-- From any other root the walk goes through the tree that it leads to. -/
  reachable : ∀ enters fs root tree, isStandardInput root = false → fs.node root = .ok tree →
    (∀ name, enters 0 name = true) → walk enters fs root = (tree.visits enters root 0).map .ok

theorem Walker.isDepthFirst_sorted : Walker.sorted.IsDepthFirst where
  input enters fs root hinput := if_pos hinput
  unreachable enters fs root e hinput hnode := by
    rw [Walker.sorted, hinput, if_neg Bool.false_ne_true, hnode]
  reachable enters fs root tree hinput hnode _ := by
    rw [Walker.sorted, hinput, if_neg Bool.false_ne_true, hnode]

namespace FileSystem

variable {fs : FileSystem} {root : Path} {tree : FileTree}

theorem ne_nil_of_node (h : fs.node root = .ok tree) : root ≠ [] := by
  rintro rfl
  cases h

/-- What a path leads to is a node of the tree. -/
theorem exists_at?_of_node (h : fs.node root = .ok tree) : ∃ names, fs.top.at? names = some tree := by
  rw [node] at h
  split at h
  · cases h
  · cases h
  · next names _ =>
    split at h <;> cases h
    exact ⟨names, ‹_›⟩

/-- The files under a root, told by the names that lead to them from the root. -/
theorem exists_filesUnder {walk : Walker} (hwalk : walk.IsDepthFirst) (hproper : fs.top.Proper)
    (hinput : isStandardInput root = false) :
    ∃ found : List (List Bytes), Index.collectFiles fs [root] walk = found.map (·.foldl Path.join root) ∧
      (∀ names, names ∈ found ↔ ∃ tree content, fs.node root = .ok tree ∧
        tree.at? names = some (.file content) ∧ ∀ name ∈ names, isSkippedName name = false) ∧
      (∀ names ∈ found, (names.foldl Path.join root).names = root.names ++ names) ∧
      found.Pairwise (· < ·) := by
  rw [Index.collectFiles, List.flatMap_singleton]
  cases hnode : fs.node root with
  | error e =>
    rw [hwalk.unreachable _ fs root e hinput hnode]
    exact ⟨[], rfl, by simp, by simp, .nil⟩
  | ok tree =>
    obtain ⟨above, hat⟩ := exists_at?_of_node hnode
    have htree : tree.Proper := hproper.at? hat
    obtain ⟨found, hfound⟩ := htree.exists_walked
    rw [hwalk.reachable _ fs root tree hinput hnode fun _ => rfl, List.filterMap_map]
    refine ⟨found, hfound.files root 0, fun names => ?_, fun names hnames => ?_, hfound.sorted⟩
    · rw [hfound.mem]
      constructor
      · rintro ⟨⟨content, hcontent⟩, hskips⟩
        exact ⟨tree, content, rfl, hcontent, hskips⟩
      · rintro ⟨_, content, heq, hcontent, hskips⟩
        cases heq
        exact ⟨⟨content, hcontent⟩, hskips⟩
    · obtain ⟨⟨content, hcontent⟩, -⟩ := (hfound.mem names).mp hnames
      exact Path.names_foldl_join (ne_nil_of_node hnode) (htree.isEntryName hcontent)

end FileSystem

namespace Index

open FileSystem

/-- **A walk finds the visible regular files, each once and in order.**

The files under several roots are those under each root, one root after the other.  Standard input has none.  Under
any other root they are the regular files at or below what the root leads to, links followed, that are reached through
directories and by names that are not passed over.  The names of each are those of the root and those on the way to it,
and they ascend strictly from file to file: lists of names are compared name by name, and names by their bytes. -/
theorem collectFiles_visible {walk : Walker} (hwalk : walk.IsDepthFirst) {fs : FileSystem} (hproper : fs.top.Proper)
    (roots : List Path) :
    collectFiles fs roots walk = roots.flatMap (fun root => collectFiles fs [root] walk) ∧
      ∀ root : Path, (isStandardInput root = true → collectFiles fs [root] walk = []) ∧
        (isStandardInput root = false → ∃ found : List (List Bytes),
          collectFiles fs [root] walk = found.map (·.foldl Path.join root) ∧
          (∀ names, names ∈ found ↔ ∃ tree content, fs.node root = .ok tree ∧
            tree.at? names = some (.file content) ∧ ∀ name ∈ names, isSkippedName name = false) ∧
          (∀ names ∈ found, (names.foldl Path.join root).names = root.names ++ names) ∧
          (collectFiles fs [root] walk).Pairwise fun a b => a.names < b.names) := by
  refine ⟨List.flatMap_congr fun root _ => ?_, fun root => ⟨fun hinput => ?_, fun hinput => ?_⟩⟩
  · rw [collectFiles, List.flatMap_singleton]
  · rw [collectFiles, List.flatMap_singleton, hwalk.input _ fs root hinput]
    rfl
  · obtain ⟨found, hfiles, hmem, hnames, hsorted⟩ := exists_filesUnder hwalk hproper hinput
    refine ⟨found, hfiles, hmem, hnames, ?_⟩
    rw [hfiles]
    refine List.pairwise_map.mpr (hsorted.imp_of_mem fun hfirst hsecond hlt => ?_)
    rw [hnames _ hfirst, hnames _ hsecond]
    exact List.append_left_lt hlt

/-- Through a link to a directory with a file `b.c`, a hidden one, a pipe and a file `x` in a directory `b`: as texts
the two paths that are found would come the other way round. -/
theorem collectFiles_visible_link :
    let below : FileTree := .directory [([98, 46, 99], .file []), ([46, 104], .file []),
      ([112], .special (some [])), ([98], .directory [([120], .file [])])]
    let fs : FileSystem := ⟨.directory [([100], below), ([108], .link [100])], []⟩
    fs.top.Proper ∧ isStandardInput [108] = false ∧ collectFiles fs [[108]] =
        [[108, 47, 98, 47, 120], [108, 47, 98, 46, 99]] ∧
      (collectFiles fs [[108]]).Pairwise fun a b => a.names < b.names := by
  intro below fs
  have hbelow : below.Proper := by
    have hlast : FileTree.Proper (.directory [([120], .file [])]) :=
      .directory (by decide) (by decide) (List.forall_mem_singleton.mpr (.file _))
    refine .directory (by decide) (by decide) (List.forall_mem_cons.mpr ⟨.file _, ?_⟩)
    refine List.forall_mem_cons.mpr ⟨.file _, ?_⟩
    exact List.forall_mem_cons.mpr ⟨.special _, List.forall_mem_singleton.mpr hlast⟩
  have hproper : fs.top.Proper := by
    refine .directory (by decide) (by decide) ?_
    exact List.forall_mem_cons.mpr ⟨hbelow, List.forall_mem_singleton.mpr (.link _)⟩
  have hinput : isStandardInput [108] = false := by decide
  obtain ⟨-, hroots⟩ := collectFiles_visible Walker.isDepthFirst_sorted hproper []
  obtain ⟨found, -, -, -, hsorted⟩ := (hroots [108]).2 hinput
  exact ⟨hproper, hinput, by cbv, hsorted⟩

/-- A regular file with the name that stands for standard input is not found under its name. -/
theorem not_forall_mem_collectFiles :
    ¬ ∀ (fs : FileSystem) (root path : Path), fs.top.Proper →
      (path ∈ collectFiles fs [root] ↔ ∃ tree names content, fs.node root = .ok tree ∧
        tree.at? names = some (.file content) ∧ (∀ name ∈ names, isSkippedName name = false) ∧
        names.foldl Path.join root = path) := by
  intro hall
  let fs : FileSystem := ⟨.directory [([45], .file [])], []⟩
  have hproper : fs.top.Proper :=
    .directory (by decide) (by decide) (List.forall_mem_singleton.mpr (.file _))
  have hnode : fs.node [45] = .ok (.file []) := by cbv
  have hnone : collectFiles fs [[45]] = [] := by cbv
  have hmem := (hall fs [45] [45] hproper).mpr ⟨_, [], [], hnode, rfl, by simp, rfl⟩
  rw [hnone] at hmem
  cases hmem

end Index

end TrigramGrep
