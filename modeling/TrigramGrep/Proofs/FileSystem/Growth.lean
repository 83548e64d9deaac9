import TrigramGrep.Proofs.FileSystem.Trail

/-!
# Trees that grow

To make directories takes nothing away: all files and links stay where they are, and none comes.  To put a file
somewhere changes this one place, if there was no directory.  Where a tree has grown, a path that led to a node still
leads there on the same trail.

## Shape of the proof

`Grown apart top later` says what has become of a tree, places `apart` left out.  A call that makes a directory grows
the tree (`grown_of_makeDirectory`), so every run of such calls does (`grown_of_makeDirectoriesIn`), whatever the
system refuses in between.
-/

namespace TrigramGrep.FileSystem

/-- What has come of a tree by making directories, and by putting something in the places `apart`. -/
structure Grown (apart : List (List Bytes)) (top later : FileTree) : Prop where
  /-- Elsewhere there are the same files and links. -/
  same : ∀ names ∉ apart, ∀ node : FileTree, node.isDirectory = false →
    (later.at? names = some node ↔ top.at? names = some node)
  /-- All directories are still there. -/
  directory : ∀ names entries, top.at? names = some (.directory entries) →
    ∃ others, later.at? names = some (.directory others)

namespace Grown

variable {apart more : List (List Bytes)} {top between later : FileTree} {place : List Bytes}

theorem refl (apart : List (List Bytes)) (top : FileTree) : Grown apart top top where
  same _ _ _ _ := Iff.rfl
  directory _ entries hentries := ⟨entries, hentries⟩

theorem trans (h : Grown apart top between) (hlater : Grown more between later) :
    Grown (apart ++ more) top later where
  same names hnames node hnode := by
    rw [List.mem_append, not_or] at hnames
    exact (hlater.same names hnames.2 node hnode).trans (h.same names hnames.1 node hnode)
  directory names entries hentries := by
    obtain ⟨others, hothers⟩ := h.directory names entries hentries
    exact hlater.directory names others hothers

/-- A node that nothing stands below, put where no directory is. -/
theorem of_set {parent : List Bytes} {name : Bytes} {entries : List (Bytes × FileTree)} {node : FileTree}
    (h : top.at? parent = some (.directory entries))
    (hname : ∀ others, entries.lookup name ≠ some (.directory others))
    (hnode : ∀ next rest, node.at? (next :: rest) = none) :
    Grown [parent ++ [name]] top (top.set (parent ++ [name]) (some node)) where
  same names hnames other hother := by
    by_cases hbelow : parent ++ [name] <+: names
    · -- below the place there is nothing, before and afterwards
      obtain ⟨rest, rfl⟩ := hbelow
      have hrest : rest ≠ [] := by
        rintro rfl
        rw [List.append_nil] at hnames
        exact hnames (List.mem_singleton_self _)
      obtain ⟨next, rest, rfl⟩ := List.exists_cons_of_ne_nil hrest
      have hlater : (top.set (parent ++ [name]) (some node)).at? (parent ++ [name] ++ next :: rest) = none := by
        rw [FileTree.at?_append, FileTree.at?_set_self h, Option.bind_some, hnode]
      rw [hlater]
      refine iff_of_false nofun fun heq => ?_
      obtain ⟨others, hothers⟩ := FileTree.exists_directory_above hrest heq
      rw [FileTree.at?_append_singleton h] at hothers
      exact hname others hothers
    · rcases FileTree.alike_set h (some node) hbelow with heq | ⟨entries, others, hentries, hothers⟩
      · rw [← heq]
      · rw [hentries, hothers]
        refine iff_of_false ?_ ?_ <;>
        · intro heq
          cases heq
          cases hother
  directory names others hothers := by
    by_cases hbelow : parent ++ [name] <+: names
    · obtain ⟨rest, rfl⟩ := hbelow
      exfalso
      by_cases hrest : rest = []
      · rw [hrest, List.append_nil, FileTree.at?_append_singleton h] at hothers
        exact hname others hothers
      · obtain ⟨above, habove⟩ := FileTree.exists_directory_above hrest hothers
        rw [FileTree.at?_append_singleton h] at habove
        exact hname above habove
    · rcases FileTree.alike_set h (some node) hbelow with heq | ⟨-, after, -, hafter⟩
      · exact ⟨others, heq ▸ hothers⟩
      · exact ⟨after, hafter⟩

/-- A place need not be left out where no file or link was put, nor was one before. -/
theorem of_place (h : Grown [place] top later)
    (htop : ∀ node : FileTree, node.isDirectory = false → top.at? place ≠ some node)
    (hlater : ∀ node : FileTree, node.isDirectory = false → later.at? place ≠ some node) :
    Grown [] top later where
  same names _ node hnode := by
    by_cases hplace : names = place
    · subst hplace
      exact iff_of_false (hlater node hnode) (htop node hnode)
    · exact h.same names (fun hmem => hplace (List.mem_singleton.mp hmem)) node hnode
  directory := h.directory

/-! ## Paths -/

variable {links : Nat} {names pieces found : List Bytes} {piece : Bytes}

/-- A piece that led to a node or a link still does. -/
theorem turn_eq (h : Grown [] top later) (hwrong : ∀ e, turn top names piece ≠ .wrong e)
    (hfree : turn top names piece ≠ .free) : turn later names piece = turn top names piece := by
  by_cases hdirectory : ∃ entries, top.at? names = some (.directory entries)
  · obtain ⟨entries, hat⟩ := hdirectory
    obtain ⟨others, hother⟩ := h.directory names entries hat
    rw [turn, hat] at hwrong hfree
    rw [turn, turn, hat, hother]
    dsimp only at hwrong hfree ⊢
    by_cases hidle : Path.isIdle piece = true
    · simp only [if_pos hidle]
    by_cases habove : piece = Path.above
    · simp only [if_neg hidle, if_pos habove]
    by_cases hlong : maxNameLength < piece.length
    · simp only [if_neg hidle, if_neg habove, if_pos hlong]
    simp only [if_neg hidle, if_neg habove, if_neg hlong] at hfree ⊢
    cases hnode : top.at? (names ++ [piece]) with
    | none =>
      rw [hnode] at hfree
      exact absurd rfl hfree
    | some node =>
      cases node with
      | directory entries =>
        obtain ⟨others, hothers⟩ := h.directory _ entries hnode
        rw [hothers]
        rfl
      | file content => rw [(h.same _ List.not_mem_nil _ rfl).mpr hnode]
      | link target => rw [(h.same _ List.not_mem_nil _ rfl).mpr hnode]
      | special reading => rw [(h.same _ List.not_mem_nil _ rfl).mpr hnode]
  · obtain ⟨e, he⟩ := turn_eq_wrong (fun entries hat => hdirectory ⟨entries, hat⟩) piece
    exact absurd he (hwrong e)

/-- A path that led to a node leads there still, and in the same way. -/
theorem follow_node (h : Grown [] top later)
    (hfollow : follow top .node links names pieces = .ok (.existing found)) :
    follow later .node links names pieces = .ok (.existing found) ∧
      trail later links names pieces = trail top links names pieces := by
  induction links, pieces using follow_induction generalizing names with
  | nil links =>
    rw [follow_nil] at hfollow ⊢
    exact ⟨hfollow, by rw [trail, trail]⟩
  | cons links piece rest hrest hfewer =>
    rw [follow_cons rfl] at hfollow ⊢
    rw [trail, trail]
    cases hturn : turn top names piece with
    | wrong e =>
      rw [hturn] at hfollow
      cases hfollow
    | free =>
      rw [hturn] at hfollow
      dsimp only at hfollow
      split at hfollow <;> cases hfollow
    | on next =>
      rw [h.turn_eq (by simp [hturn]) (by simp [hturn]), hturn]
      rw [hturn] at hfollow
      obtain ⟨hnext, htrail⟩ := hrest hfollow
      exact ⟨hnext, congrArg (next :: ·) htrail⟩
    | link target =>
      rw [h.turn_eq (by simp [hturn]) (by simp [hturn]), hturn]
      rw [hturn] at hfollow
      cases links with
      | zero => cases hfollow
      | succ links =>
        obtain ⟨hnext, htrail⟩ := hfewer links (Nat.lt_succ_self links) _ hfollow
        exact ⟨hnext, congrArg ((names ++ [piece]) :: ·) htrail⟩

/-- A file that a path led to is still there. -/
theorem read_eq_ok {fs grown : FileSystem} (h : Grown [] fs.top grown.top) (hcurrent : grown.current = fs.current)
    {path : Path} {content : Bytes} (hread : fs.read path = .ok content) :
    grown.read path = .ok content ∧ grown.trailOf path = fs.trailOf path := by
  obtain ⟨names, node, hresolve, hat, hcontent⟩ := exists_node_of_read hread
  obtain ⟨hproper, hfollow⟩ := resolve_eq_ok_iff.mp hresolve
  obtain ⟨hgrown, htrail⟩ := h.follow_node hfollow
  have hstart : grown.start path = fs.start path := by rw [start, start, hcurrent]
  have hsame := (h.same names List.not_mem_nil node (isDirectory_of_reading hcontent)).mpr hat
  refine ⟨(read_of_resolve ?_ hsame).trans hcontent, ?_⟩
  · rw [resolve_eq_follow hproper, hstart, hgrown]
  · rw [trailOf, trailOf, hstart, htrail]

end Grown

/-! ## Making directories -/

variable {top : FileTree} {links : Nat} {names pieces above : List Bytes} {piece name : Bytes}

/-- A free piece has no entry in the directory where it is looked up. -/
theorem lookup_of_turn_eq_free (h : turn top names piece = .free) :
    ∃ entries, top.at? names = some (.directory entries) ∧ entries.lookup piece = none := by
  rw [turn] at h
  split at h
  · cases h
  · next entries hat =>
    split at h
    · cases h
    split at h
    · cases h
    split at h
    · cases h
    rw [FileTree.at?_append_singleton hat] at h
    refine ⟨entries, hat, ?_⟩
    cases hlookup : entries.lookup piece with
    | none => rfl
    | some node => rw [hlookup] at h; cases node <;> cases h
  · cases h

/-- An entry that is missing could stand in a directory. -/
theorem lookup_of_follow_missing (h : follow top .entry links names pieces = .ok (.missing above name)) :
    ∃ entries, top.at? above = some (.directory entries) ∧ entries.lookup name = none := by
  induction links, pieces using follow_induction generalizing names with
  | nil links =>
    rw [follow_nil] at h
    cases h
  | cons links piece rest hrest hfewer =>
    rw [follow_cons rfl] at h
    cases hturn : turn top names piece with
    | wrong e =>
      rw [hturn] at h
      cases h
    | on next =>
      rw [hturn] at h
      exact hrest h
    | free =>
      rw [hturn] at h
      dsimp only at h
      split at h
      · cases h
        exact lookup_of_turn_eq_free hturn
      · cases h
    | link target =>
      rw [hturn] at h
      dsimp only at h
      split at h
      · cases h
      · cases links with
        | zero => cases h
        | succ links => exact hfewer links (Nat.lt_succ_self links) _ h

/-- A directory is made where nothing was. -/
theorem grown_of_makeDirectory {fs made : FileSystem} {path : Path} (h : fs.makeDirectory path = .ok made) :
    Grown [] fs.top made.top ∧ made.current = fs.current := by
  rw [makeDirectory] at h
  cases hresolve : fs.resolve .entry path with
  | error e =>
    rw [hresolve] at h
    cases h
  | ok place =>
    rw [hresolve] at h
    cases place with
    | existing names => cases h
    | missing above name =>
      obtain rfl : fs.setAt (above ++ [name]) (some .empty) = made := Except.ok.inj h
      obtain ⟨entries, hat, hfree⟩ := lookup_of_follow_missing (resolve_eq_ok_iff.mp hresolve).2
      have hempty : ∀ next rest, FileTree.empty.at? (next :: rest) = none := fun _ _ => rfl
      refine ⟨(Grown.of_set hat (by simp [hfree]) hempty).of_place (fun node _ => ?_) fun node hnode => ?_, rfl⟩
      · rw [FileTree.at?_append_singleton hat, hfree]
        exact nofun
      · show (fs.top.set (above ++ [name]) (some .empty)).at? (above ++ [name]) ≠ some node
        rw [FileTree.at?_set_self hat]
        intro heq
        cases heq
        cases hnode

theorem grown_of_makeDirectoryAgainst {obstacles : Obstacles} {fs made : FileSystem} {path : Path}
    (h : fs.makeDirectoryAgainst obstacles path = .ok made) :
    Grown [] fs.top made.top ∧ made.current = fs.current := by
  rw [makeDirectoryAgainst] at h
  split at h
  · cases h
  · exact grown_of_makeDirectory h

/-- However far the making of directories comes, the tree has grown by them. -/
theorem grown_of_makeDirectoriesIn (obstacles : Obstacles) (fuel : Nat) (fs : FileSystem) (path : Path) :
    Grown [] fs.top (makeDirectoriesIn obstacles fuel fs path).2.top ∧
      (makeDirectoriesIn obstacles fuel fs path).2.current = fs.current := by
  induction fuel generalizing path with
  | zero => exact ⟨.refl [] fs.top, rfl⟩
  | succ fuel ih =>
    have hself : Grown [] fs.top fs.top ∧ fs.current = fs.current := ⟨.refl [] fs.top, rfl⟩
    rw [makeDirectoriesIn]
    by_cases hempty : path.isEmpty = true
    · rw [if_pos hempty]
      exact hself
    rw [if_neg hempty]
    split
    · next made hmake => exact grown_of_makeDirectoryAgainst hmake
    · -- the directory above is missing and comes first
      cases path.parent? with
      | none => exact hself
      | some parent =>
        have hparent := ih parent
        dsimp only
        generalize makeDirectoriesIn obstacles fuel fs parent = below at hparent ⊢
        obtain ⟨result, between⟩ := below
        cases result with
        | error e => exact hparent
        | ok _ =>
          dsimp only at hparent ⊢
          cases hlast : between.makeDirectoryAgainst obstacles path with
          | ok made =>
            obtain ⟨hgrown, hcurrent⟩ := grown_of_makeDirectoryAgainst hlast
            exact ⟨hparent.1.trans hgrown, hcurrent.trans hparent.2⟩
          | error e =>
            dsimp only
            split <;> exact hparent
    · split <;> exact hself

/-- An entry that becomes a file is all that changes. -/
theorem LeadsToEntry.grown {fs : FileSystem} {path : Path} {place : List Bytes} (h : LeadsToEntry fs path place)
    (content : Bytes) : Grown [place] fs.top (fs.setAt place (some (.file content))).top := by
  obtain ⟨parent, last, entries, rfl, hparent, hno⟩ := h.exists_parent
  exact .of_set hparent hno fun _ _ => rfl

end TrigramGrep.FileSystem
