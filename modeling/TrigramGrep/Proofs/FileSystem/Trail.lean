import TrigramGrep.Proofs.FileSystem.Resolve

/-!
# What a path visits on its way

A path leads from node to node, and where it leads depends on these nodes alone.  The trail of a path names them.
So two trees in which the nodes of a trail are alike send the path to the same place: a file that is put where the
trail does not come, and a directory that is made where nothing was.

Behind a node that is no directory and no link a path cannot go on.  So a place where a file is, or nothing, is on a
trail only if the path ends there.
-/

namespace TrigramGrep.FileSystem

/-- The nodes that a path visits from a node on, each by the names from the top; all links are followed. -/
def trail (top : FileTree) (links : Nat) (names pieces : List Bytes) : List (List Bytes) :=
  match pieces with
  | [] => []
  | piece :: rest =>
    match turn top names piece with
    | .on next => next :: trail top links next rest
    | .free => [names ++ [piece]]
    | .wrong _ => []
    | .link target =>
      (names ++ [piece]) ::
        match links with
        | 0 => []
        | links + 1 => trail top links (if target.isAbsolute then [] else names) (target.pieces ++ rest)
termination_by (links, pieces.length)

/-- The nodes that a path visits. -/
def trailOf (fs : FileSystem) (path : Path) : List (List Bytes) :=
  trail fs.top maxLinks (fs.start path) path.pieces

/-- The nodes that a path visits before its last piece. -/
def trailAbove (fs : FileSystem) (path : Path) : List (List Bytes) :=
  trail fs.top maxLinks (fs.start path) path.pieces.dropLast

/-- What is read is what the node gives that the path leads to. -/
theorem exists_node_of_read {fs : FileSystem} {path : Path} {content : Bytes} (h : fs.read path = .ok content) :
    ∃ names node, fs.resolve .node path = .ok (.existing names) ∧ fs.top.at? names = some node ∧
      node.reading = .ok content := by
  rw [read, node] at h
  cases hresolve : fs.resolve .node path with
  | error e =>
    rw [hresolve] at h
    cases h
  | ok reached =>
    rw [hresolve] at h
    cases reached with
    | missing above name => cases h
    | existing names =>
      dsimp only at h
      cases hat : fs.top.at? names with
      | none =>
        rw [hat] at h
        cases h
      | some node =>
        rw [hat] at h
        exact ⟨names, node, rfl, hat, h⟩

theorem read_of_resolve {fs : FileSystem} {path : Path} {names : List Bytes} {tree : FileTree}
    (hresolve : fs.resolve .node path = .ok (.existing names)) (hat : fs.top.at? names = some tree) :
    fs.read path = tree.reading := by
  rw [read, node, hresolve]
  dsimp only
  rw [hat]

/-- Directories are not read. -/
theorem isDirectory_of_reading {node : FileTree} {content : Bytes} (h : node.reading = .ok content) :
    node.isDirectory = false := by
  cases node with
  | directory entries => cases h
  | file content => rfl
  | link target => rfl
  | special reading => rfl

variable {top other : FileTree} {links : Nat} {names pieces rest place found : List Bytes} {piece : Bytes}

/-! ## Where a trail ends -/

/-- A path that goes on behind a node has found a directory there. -/
theorem exists_directory_of_follow_cons {aim : Aim} {reached : Place} (haim : aim ≠ .file)
    (h : follow top aim links names (piece :: rest) = .ok reached) :
    ∃ entries, top.at? names = some (.directory entries) := by
  by_cases hdirectory : ∃ entries, top.at? names = some (.directory entries)
  · exact hdirectory
  · obtain ⟨e, he⟩ := turn_eq_wrong (fun entries hat => hdirectory ⟨entries, hat⟩) piece
    rw [follow_cons (by simp [haim]), he] at h
    cases h

/-- A path that leads to a node ends there, and all that it visits before are directories and links. -/
theorem at?_of_mem_trail (h : follow top .node links names pieces = .ok (.existing found))
    (hplace : place ∈ trail top links names pieces) :
    place = found ∨ (∃ entries, top.at? place = some (.directory entries)) ∨
      ∃ target, top.at? place = some (.link target) := by
  induction links, pieces using follow_induction generalizing names with
  | nil links =>
    rw [trail] at hplace
    exact absurd hplace List.not_mem_nil
  | cons links piece rest hrest hfewer =>
    rw [follow_cons rfl] at h
    rw [trail] at hplace
    cases hturn : turn top names piece with
    | wrong e =>
      rw [hturn] at h
      cases h
    | free =>
      rw [hturn] at h
      dsimp only at h
      split at h <;> cases h
    | on next =>
      rw [hturn] at h hplace
      rcases List.mem_cons.mp hplace with rfl | hplace
      · cases rest with
        | nil => exact .inl (Place.existing.inj (Except.ok.inj (follow_nil.symm.trans h)))
        | cons piece rest => exact .inr (.inl (exists_directory_of_follow_cons (by decide) h))
      · exact hrest h hplace
    | link target =>
      rw [hturn] at h hplace
      rcases List.mem_cons.mp hplace with rfl | hplace
      · exact .inr (.inr ⟨target, at?_of_turn_eq_link hturn⟩)
      · cases links with
        | zero => exact absurd hplace List.not_mem_nil
        | succ links => exact hfewer links (Nat.lt_succ_self links) _ h hplace

/-- A node that a path leads to is on its trail, unless it is a directory, where links can lead at once. -/
theorem mem_trail (hfound : ∀ entries, top.at? found ≠ some (.directory entries)) (hpieces : pieces ≠ [])
    (h : follow top .node links names pieces = .ok (.existing found)) :
    found ∈ trail top links names pieces := by
  induction links, pieces using follow_induction generalizing names with
  | nil links => exact absurd rfl hpieces
  | cons links piece rest hrest hfewer =>
    rw [follow_cons rfl] at h
    rw [trail]
    cases hturn : turn top names piece with
    | wrong e =>
      rw [hturn] at h
      cases h
    | free =>
      rw [hturn] at h
      dsimp only at h
      split at h <;> cases h
    | on next =>
      rw [hturn] at h
      by_cases hend : rest = []
      · subst hend
        obtain rfl : next = found := Place.existing.inj (Except.ok.inj (follow_nil.symm.trans h))
        exact List.mem_cons_self
      · exact List.mem_cons_of_mem next (hrest hend h)
    | link target =>
      rw [hturn] at h
      cases links with
      | zero => cases h
      | succ links =>
        refine List.mem_cons_of_mem _ (hfewer links (Nat.lt_succ_self links) _ ?_ h)
        exact List.append_ne_nil_of_left_ne_nil (Path.piecesFrom_ne_nil [] target) rest

/-- A path that goes on behind a node of its trail, or ends in a directory, does not visit a place without a
directory or a link. -/
theorem notMem_trail (h : follow top .node links names pieces = .ok (.existing found))
    (hdirectory : ∀ entries, top.at? place ≠ some (.directory entries))
    (hlink : ∀ target, top.at? place ≠ some (.link target)) (hfound : place ≠ found) :
    place ∉ trail top links names pieces := by
  intro hplace
  rcases at?_of_mem_trail h hplace with heq | ⟨entries, hentries⟩ | ⟨target, htarget⟩
  · exact hfound heq
  · exact hdirectory entries hentries
  · exact hlink target htarget

/-! ## A file put somewhere -/

/-- A path that does not visit the place of a new file leads where it led before. -/
theorem Patched.follow_node (h : Patched top other place) (hnames : ¬ place <+: names)
    (hplace : place ∉ trail top links names pieces) :
    follow other .node links names pieces = follow top .node links names pieces := by
  induction links, pieces using follow_induction generalizing names with
  | nil links => rw [follow_nil, follow_nil]
  | cons links piece rest hrest hfewer =>
    rw [follow_cons rfl, follow_cons rfl]
    rw [trail] at hplace
    rcases h.turn_eq_or hnames piece with ⟨hsame, -, hnext⟩ | ⟨hthere, -, htop⟩
    · rw [hsame]
      cases hturn : turn top names piece with
      | wrong e => rfl
      | free => rfl
      | on next =>
        rw [hturn] at hplace
        exact hrest (hnext next hturn) (List.not_mem_of_not_mem_cons hplace)
      | link target =>
        rw [hturn] at hplace
        cases links with
        | zero => rfl
        | succ links =>
          refine hfewer links (Nat.lt_succ_self links) _ ?_ (List.not_mem_of_not_mem_cons hplace)
          split
          · rw [List.prefix_nil]
            rintro rfl
            exact hnames (List.nil_prefix ..)
          · exact hnames
    · -- the path would visit the place
      refine absurd ?_ hplace
      rw [htop]
      cases hnode : top.at? place with
      | none =>
        rw [← hthere]
        exact List.mem_singleton_self _
      | some node =>
        cases node with
        | file content => exact List.mem_cons_self
        | directory entries => exact List.mem_cons_self
        | special reading => exact List.mem_cons_self
        | link target =>
          rw [← hthere]
          exact List.mem_cons_self

/-- Where there is a directory, no file is put, and none stands above. -/
theorem Patched.not_below_of_directory (h : Patched top other place) {entries : List (Bytes × FileTree)}
    (hat : top.at? names = some (.directory entries)) : ¬ place <+: names := by
  rintro ⟨more, rfl⟩
  by_cases hmore : more = []
  · subst hmore
    rw [List.append_nil] at hat
    exact h.noDirectory entries hat
  · obtain ⟨others, hothers⟩ := FileTree.exists_directory_above hmore hat
    exact h.noDirectory others hothers

/-- A path that leads somewhere starts in a directory. -/
theorem Patched.not_below_start {fs later : FileSystem} (h : Patched fs.top later.top place) {aim : Aim}
    (haim : aim ≠ .file) {path : Path} {reached : Place} (hresolve : fs.resolve aim path = .ok reached) :
    ¬ place <+: fs.start path := by
  obtain ⟨-, hfollow⟩ := resolve_eq_ok_iff.mp hresolve
  obtain ⟨piece, rest, hpieces⟩ := List.exists_cons_of_ne_nil (Path.piecesFrom_ne_nil [] path)
  rw [Path.pieces, hpieces] at hfollow
  obtain ⟨entries, hat⟩ := exists_directory_of_follow_cons haim hfollow
  exact h.not_below_of_directory hat

/-- A file that a path leads to stays the same when the path does not visit the place of a new one. -/
theorem Patched.read_eq_ok {fs later : FileSystem} (h : Patched fs.top later.top place)
    (hcurrent : later.current = fs.current) {path : Path} {content : Bytes} (hread : fs.read path = .ok content)
    (hplace : place ∉ fs.trailOf path) : later.read path = .ok content := by
  obtain ⟨names, node, hresolve, hat, hcontent⟩ := exists_node_of_read hread
  obtain ⟨hproper, hfollow⟩ := resolve_eq_ok_iff.mp hresolve
  have hno : ∀ entries, fs.top.at? names ≠ some (.directory entries) := by
    intro entries hentries
    obtain rfl := Option.some.inj (hat.symm.trans hentries)
    cases isDirectory_of_reading hcontent
  -- the file is on the trail, so it is another one, and nothing above it has changed
  have hbelow : ¬ place <+: names := by
    rintro ⟨more, rfl⟩
    by_cases hmore : more = []
    · subst hmore
      rw [List.append_nil] at hno hfollow
      exact hplace (mem_trail hno (Path.piecesFrom_ne_nil [] path) hfollow)
    · obtain ⟨others, hothers⟩ := FileTree.exists_directory_above hmore hat
      exact h.noDirectory others hothers
  have hsame : later.top.at? names = some node := by
    rcases h.alike names hbelow with heq | ⟨entries, -, hentries, -⟩
    · exact heq ▸ hat
    · exact absurd hentries (hno entries)
  refine (read_of_resolve ?_ hsame).trans hcontent
  rw [resolve_eq_follow hproper, start, hcurrent]
  exact (h.follow_node (h.not_below_start (by decide) hresolve) hplace).trans hfollow

/-- A path leads to a file that was put where it led to, if it does not visit this place before its last piece. -/
theorem Patched.follow_last {parent : List Bytes} (h : Patched top other (parent ++ [piece]))
    (hnames : ¬ (parent ++ [piece]) <+: names) (hname : IsName piece) (hlength : piece.length ≤ maxNameLength)
    {entries : List (Bytes × FileTree)} (hparent : top.at? parent = some (.directory entries))
    (habove : follow top .node links names pieces = .ok (.existing parent))
    (hplace : parent ++ [piece] ∉ trail top links names pieces) (aim : Aim) :
    follow other aim links names (pieces ++ [piece]) = .ok (.existing (parent ++ [piece])) := by
  rcases follow_append other aim links names pieces hname.all_isEmpty with
    ⟨found, fewer, hfound, heq⟩ | ⟨hnone, -⟩
  · obtain rfl : found = parent := by
      rw [h.follow_node hnames hplace, habove] at hfound
      exact (Place.existing.inj (Except.ok.inj hfound)).symm
    obtain ⟨others, hothers⟩ := h.at?_directory (h.not_below_of_directory hparent) hparent
    obtain ⟨content, hcontent⟩ := h.file
    rw [FileTree.at?_append_singleton hothers] at hcontent
    rw [heq, follow_cons (by simp), turn_of_isName hname hothers hlength, hcontent]
    exact follow_nil
  · exact absurd ((h.follow_node hnames hplace).trans habove) (hnone parent)

/-- A path that ends in a name leads to what was put where it led to, unless it visits this place before. -/
theorem Patched.resolve_of_notMem {fs later : FileSystem} {reached : Place}
    (h : Patched fs.top later.top place) (hcurrent : later.current = fs.current) {path : Path}
    {above : List Bytes} {last : Bytes} (hpieces : path.pieces = above ++ [last]) (hname : IsName last)
    (hresolve : fs.resolve .entry path = .ok reached) (hreached : reached.names = place)
    (hplace : place ∉ fs.trailAbove path) (aim : Aim) : later.resolve aim path = .ok (.existing place) := by
  obtain ⟨parent, entries, habove, hparent, hlength, hnames, -⟩ :=
    exists_parent_of_resolve_entry hpieces hname hresolve
  obtain rfl : place = parent ++ [last] := hreached.symm.trans hnames
  rw [trailAbove, hpieces, List.dropLast_concat] at hplace
  rw [resolve_eq_follow (resolve_eq_ok_iff.mp hresolve).1, start, hcurrent, hpieces]
  exact h.follow_last (h.not_below_start (by decide) hresolve) hname hlength hparent habove hplace aim

/-- A path visits no place before its last piece but directories and links. -/
theorem notMem_trailAbove {fs : FileSystem} {path : Path} {reached : Place} {above : List Bytes} {last : Bytes}
    (hpieces : path.pieces = above ++ [last]) (hname : IsName last)
    (hresolve : fs.resolve .entry path = .ok reached)
    (hdirectory : ∀ entries, fs.top.at? reached.names ≠ some (.directory entries))
    (hlink : ∀ target, fs.top.at? reached.names ≠ some (.link target)) :
    reached.names ∉ fs.trailAbove path := by
  obtain ⟨parent, entries, habove, hparent, -, hnames, -⟩ :=
    exists_parent_of_resolve_entry hpieces hname hresolve
  rw [trailAbove, hpieces, List.dropLast_concat]
  refine notMem_trail habove hdirectory hlink fun heq => ?_
  rw [heq] at hdirectory
  exact hdirectory entries hparent

/-! ## Entries for files -/

/-- A path ends in the name of an entry that can become a file: there is no directory. -/
structure LeadsToEntry (fs : FileSystem) (path : Path) (place : List Bytes) : Prop where
  name : ∃ above last, path.pieces = above ++ [last] ∧ IsName last
  reached : ∃ reached, fs.resolve .entry path = .ok reached ∧ reached.names = place
  noDirectory : ∀ entries, fs.top.at? place ≠ some (.directory entries)

namespace LeadsToEntry

variable {fs : FileSystem} {path : Path}

theorem exists_parent (h : LeadsToEntry fs path place) :
    ∃ parent last entries, place = parent ++ [last] ∧ fs.top.at? parent = some (.directory entries) ∧
      ∀ others, entries.lookup last ≠ some (.directory others) := by
  obtain ⟨above, last, hpieces, hlast⟩ := h.name
  obtain ⟨reached, hreached, rfl⟩ := h.reached
  obtain ⟨parent, entries, -, hparent, -, hnames, -⟩ := exists_parent_of_resolve_entry hpieces hlast hreached
  refine ⟨parent, last, entries, hnames, hparent, fun others hothers => ?_⟩
  refine h.noDirectory others ?_
  rw [hnames, FileTree.at?_append_singleton hparent, hothers]

theorem patched (h : LeadsToEntry fs path place) (content : Bytes) :
    Patched fs.top (fs.setAt place (some (.file content))).top place := by
  obtain ⟨parent, last, entries, rfl, hparent, hno⟩ := h.exists_parent
  exact patched_set hparent hno content

theorem at?_setAt (h : LeadsToEntry fs path place) (content : Bytes) :
    (fs.setAt place (some (.file content))).top.at? place = some (.file content) := by
  obtain ⟨parent, last, entries, rfl, hparent, -⟩ := h.exists_parent
  exact FileTree.at?_set_self hparent _

/-- An entry that is no link is not visited on the way to it. -/
theorem notMem_trailAbove (h : LeadsToEntry fs path place)
    (hlink : ∀ target, fs.top.at? place ≠ some (.link target)) : place ∉ fs.trailAbove path := by
  obtain ⟨above, last, hpieces, hlast⟩ := h.name
  obtain ⟨reached, hreached, rfl⟩ := h.reached
  exact FileSystem.notMem_trailAbove hpieces hlast hreached h.noDirectory hlink

/-- The path leads to the file that the entry has become, unless it visits the entry on its way. -/
theorem resolve_setAt (h : LeadsToEntry fs path place) (hplace : place ∉ fs.trailAbove path) (content : Bytes)
    (aim : Aim) : (fs.setAt place (some (.file content))).resolve aim path = .ok (.existing place) := by
  obtain ⟨above, last, hpieces, hlast⟩ := h.name
  obtain ⟨reached, hreached, hnames⟩ := h.reached
  exact (h.patched content).resolve_of_notMem rfl hpieces hlast hreached hnames hplace aim

theorem read_setAt (h : LeadsToEntry fs path place) (hplace : place ∉ fs.trailAbove path) (content : Bytes) :
    (fs.setAt place (some (.file content))).read path = .ok content :=
  read_of_resolve (h.resolve_setAt hplace content .node) (h.at?_setAt content)

/-- In any case the path leads there or nowhere. -/
theorem eq_file_of_node (h : LeadsToEntry fs path place) {content : Bytes} {tree : FileTree}
    (hnode : (fs.setAt place (some (.file content))).node path = .ok tree) : tree = .file content := by
  obtain ⟨reached, hreached, hnames⟩ := h.reached
  have hthere := (h.patched content).node_eq rfl hreached hnames hnode
  exact Option.some.inj (hthere.symm.trans (h.at?_setAt content))

end LeadsToEntry

end TrigramGrep.FileSystem
