import TrigramGrep.FileSystem
import TrigramGrep.Proofs.FileSystem.Tree
import TrigramGrep.Proofs.Path

/-!
# Where paths lead

A path is followed piece by piece, and what is found depends only on the nodes that are passed.  So a path
can be cut in two, and a file that is put in the place of a name leaves all paths alone that do not pass
this place.

## Shape of the proof

A `turn` is what one piece does at a node, and `follow_cons` says that a path does what its first piece does.
The statements about whole paths follow the recursion of `follow`, with one case for each turn.
-/

namespace TrigramGrep.FileSystem

/-- The names of the entry that a path leads to, whether it is there or not. -/
def Place.names : Place → List Bytes
  | .existing names => names
  | .missing above name => above ++ [name]

variable {top : FileTree} {aim : Aim} {links : Nat} {names pieces rest : List Bytes} {piece : Bytes}

/-! ## One piece -/

/-- What a piece of a path does where the path has led so far. -/
inductive Turn where
  /-- The path goes on at a node. -/
  | on (names : List Bytes)
  /-- The piece is the name of a link. -/
  | link (target : Path)
  /-- The piece is a name that is free. -/
  | free
  /-- The path leads nowhere, whatever its other pieces are. -/
  | wrong (e : SystemError)

/-- What a name does, told from the node that it is the name of. -/
def Turn.under (names : List Bytes) : Option FileTree → Turn
  | none => .free
  | some (.link target) => .link target
  | some _ => .on names

theorem Turn.eq_of_under {names next : List Bytes} {node : Option FileTree}
    (h : under names node = .on next) : names = next := by
  cases node with
  | none => cases h
  | some node => cases node <;> cases h <;> rfl

/-- What a piece does at a node. -/
def turn (top : FileTree) (names : List Bytes) (piece : Bytes) : Turn :=
  match top.at? names with
  | none => .wrong .notFound
  | some (.directory _) =>
    if Path.isIdle piece then .on names
    else if piece = Path.above then .on names.dropLast
    else if maxNameLength < piece.length then .wrong .nameTooLong
    else .under (names ++ [piece]) (top.at? (names ++ [piece]))
  | some _ => .wrong .notDirectory

theorem follow_nil : follow top aim links names [] = .ok (.existing names) := by
  rw [follow]

/-- What the first piece does decides, except that a path to a file does not end in a slash. -/
theorem follow_cons (h : (aim = .file && !rest.isEmpty && rest.all List.isEmpty) = false) :
    follow top aim links names (piece :: rest) =
      match turn top names piece with
      | .on next => follow top aim links next rest
      | .link target =>
        if aim = .entry && rest.all List.isEmpty then .ok (.existing (names ++ [piece]))
        else
          match links with
          | 0 => .error .tooManyLinks
          | links + 1 =>
            follow top aim links (if target.isAbsolute then [] else names) (target.pieces ++ rest)
      | .free => if rest.all List.isEmpty then .ok (.missing names piece) else .error .notFound
      | .wrong e => .error e := by
  rw [follow, turn]
  cases hat : top.at? names with
  | none => rfl
  | some node =>
    cases node with
    | file content => rfl
    | link target => rfl
    | special reading => rfl
    | directory entries =>
      dsimp only
      -- from here on both sides ask the same questions in the same order
      rw [h, FileTree.at?_append_singleton hat]
      by_cases hidle : Path.isIdle piece = true
      · simp only [if_pos hidle]
      by_cases habove : piece = Path.above
      · simp only [if_neg hidle, if_pos habove]
      by_cases hlong : maxNameLength < piece.length
      · simp only [if_neg hidle, if_neg habove, if_pos hlong, if_neg Bool.false_ne_true]
      simp only [if_neg hidle, if_neg habove, if_neg hlong, if_neg Bool.false_ne_true]
      cases entries.lookup piece with
      | none => rfl
      | some node => cases node <;> rfl

/-- Outside of directories no piece leads anywhere. -/
theorem turn_eq_wrong (h : ∀ entries, top.at? names ≠ some (.directory entries)) (piece : Bytes) :
    ∃ e, turn top names piece = .wrong e := by
  rw [turn]
  cases hat : top.at? names with
  | none => exact ⟨_, rfl⟩
  | some node =>
    cases node with
    | directory entries => exact absurd hat (h entries)
    | file content => exact ⟨_, rfl⟩
    | link target => exact ⟨_, rfl⟩
    | special reading => exact ⟨_, rfl⟩

theorem follow_cons_error (h : ∀ entries, top.at? names ≠ some (.directory entries)) :
    ∃ e, follow top .entry links names (piece :: rest) = .error e := by
  obtain ⟨e, he⟩ := turn_eq_wrong h piece
  exact ⟨e, by rw [follow_cons rfl, he]⟩

/-- A piece that is a link leads to the link. -/
theorem at?_of_turn_eq_link {target : Path} (h : turn top names piece = .link target) :
    top.at? (names ++ [piece]) = some (.link target) := by
  rw [turn] at h
  split at h
  · cases h
  · split at h
    · cases h
    split at h
    · cases h
    split at h
    · cases h
    cases hnode : top.at? (names ++ [piece]) with
    | none => rw [hnode] at h; cases h
    | some node => rw [hnode] at h; cases node <;> cases h; rfl
  · cases h

/-- The recursion of `follow`: a piece leaves the other pieces, or any pieces and fewer links. -/
theorem follow_induction {motive : Nat → List Bytes → Prop} (nil : ∀ links, motive links [])
    (cons : ∀ links piece rest, motive links rest →
      (∀ fewer < links, ∀ pieces, motive fewer pieces) → motive links (piece :: rest))
    (links : Nat) (pieces : List Bytes) : motive links pieces := by
  induction links using Nat.strongRecOn generalizing pieces with
  | ind links ih =>
    induction pieces with
    | nil => exact nil links
    | cons piece rest hrest => exact cons links piece rest hrest ih

/-! ## Links at the end -/

/-- A path leads to the same place whether or not a link at its end is followed, unless there is one. -/
theorem follow_node_eq_or (top : FileTree) (links : Nat) (names pieces : List Bytes) :
    follow top .node links names pieces = follow top .entry links names pieces ∨
      ∃ found target, follow top .entry links names pieces = .ok (.existing found) ∧
        top.at? found = some (.link target) := by
  induction links, pieces using follow_induction generalizing names with
  | nil links => exact .inl (by rw [follow_nil, follow_nil])
  | cons links piece rest hrest hfewer =>
    rw [follow_cons rfl, follow_cons rfl]
    cases hturn : turn top names piece with
    | on next => exact hrest next
    | free => exact .inl rfl
    | wrong e => exact .inl rfl
    | link target =>
      by_cases hend : rest.all List.isEmpty = true
      · exact .inr ⟨_, target, by simp [hend], at?_of_turn_eq_link hturn⟩
      · cases links with
        | zero => exact .inl (by simp [hend])
        | succ links => simpa [hend] using hfewer links (Nat.lt_succ_self links) _ _

/-! ## Paths in two parts -/

/-- A path that goes on after a first part leads on from the node that this part leads to; if this part leads
to no node, the whole path leads nowhere. -/
theorem follow_append (top : FileTree) (aim : Aim) (links : Nat) (names pieces : List Bytes)
    {rest : List Bytes} (hrest : rest.all List.isEmpty = false) :
    (∃ found fewer, follow top .node links names pieces = .ok (.existing found) ∧
        follow top aim links names (pieces ++ rest) = follow top aim fewer found rest) ∨
      (∀ found, follow top .node links names pieces ≠ .ok (.existing found)) ∧
        ∃ e, follow top aim links names (pieces ++ rest) = .error e := by
  induction links, pieces using follow_induction generalizing names with
  | nil links => exact .inl ⟨names, links, follow_nil, rfl⟩
  | cons links piece pieces hpieces hfewer =>
    -- no piece of the first part is the last one, so links are followed and names must be there
    have hall : (pieces ++ rest).all List.isEmpty = false := by
      rw [List.all_append, hrest, Bool.and_false]
    rw [List.cons_append, follow_cons rfl, follow_cons (by rw [hall, Bool.and_false])]
    cases turn top names piece with
    | on next => exact hpieces next
    | wrong e =>
      refine .inr ⟨fun found h => ?_, e, rfl⟩
      cases h
    | free =>
      refine .inr ⟨fun found h => ?_, .notFound, by rw [hall]; rfl⟩
      dsimp only at h
      split at h <;> cases h
    | link target =>
      rw [hall, Bool.and_false]
      cases links with
      | zero =>
        refine .inr ⟨fun found h => ?_, .tooManyLinks, rfl⟩
        cases h
      | succ links =>
        have := hfewer links (Nat.lt_succ_self links) (target.pieces ++ pieces)
          (if target.isAbsolute then [] else names)
        rwa [List.append_assoc] at this

/-- An empty piece at the end, behind the last slash, changes nothing in a directory. -/
theorem follow_append_empty {found : List Bytes} {entries : List (Bytes × FileTree)}
    (hfound : top.at? found = some (.directory entries))
    (h : follow top .node links names pieces = .ok (.existing found)) :
    follow top .node links names (pieces ++ [[]]) = .ok (.existing found) := by
  induction links, pieces using follow_induction generalizing names with
  | nil links =>
    obtain rfl : names = found := by simpa [follow_nil] using h
    -- an empty piece stays where it is
    have hturn : turn top names [] = .on names := by
      rw [turn, hfound]
      rfl
    rw [List.nil_append, follow_cons rfl, hturn]
    exact follow_nil
  | cons links piece pieces hpieces hfewer =>
    rw [follow_cons rfl] at h
    rw [List.cons_append, follow_cons rfl]
    cases hturn : turn top names piece with
    | on next =>
      rw [hturn] at h
      exact hpieces h
    | wrong e =>
      rw [hturn] at h
      cases h
    | free =>
      rw [hturn] at h
      dsimp only at h
      split at h <;> cases h
    | link target =>
      rw [hturn] at h
      cases links with
      | zero => cases h
      | succ links =>
        have := hfewer links (Nat.lt_succ_self links) (target.pieces ++ pieces) h
        rwa [List.append_assoc] at this

/-- Whether a piece of a path is the name of an entry. -/
def IsName (piece : Bytes) : Prop :=
  Path.isIdle piece = false ∧ piece ≠ Path.above

/-- A name that leads anywhere stands in a directory. -/
theorem exists_directory_of_turn (hname : IsName piece) (h : ∀ e, turn top names piece ≠ .wrong e) :
    ∃ entries, top.at? names = some (.directory entries) ∧ piece.length ≤ maxNameLength := by
  by_cases hdirectory : ∃ entries, top.at? names = some (.directory entries)
  · obtain ⟨entries, hat⟩ := hdirectory
    refine ⟨entries, hat, Nat.le_of_not_lt fun hlong => h .nameTooLong ?_⟩
    rw [turn, hat]
    simp only [hname.1, hname.2, if_neg Bool.false_ne_true, if_false, if_pos hlong]
  · obtain ⟨e, he⟩ := turn_eq_wrong (fun entries hat => hdirectory ⟨entries, hat⟩) piece
    exact absurd he (h e)

theorem turn_of_isName (hname : IsName piece) {entries : List (Bytes × FileTree)}
    (hat : top.at? names = some (.directory entries)) (hlength : piece.length ≤ maxNameLength) :
    turn top names piece = .under (names ++ [piece]) (entries.lookup piece) := by
  rw [turn, hat, FileTree.at?_append_singleton hat]
  simp only [hname.1, hname.2, if_neg Bool.false_ne_true, if_false, if_neg (Nat.not_lt.mpr hlength)]

/-- A path of one name leads to the entry of that name. -/
theorem follow_singleton (hname : IsName piece) {place : Place}
    (h : follow top aim links names [piece] = .ok place) :
    ∃ entries, top.at? names = some (.directory entries) ∧ piece.length ≤ maxNameLength ∧
      (entries.lookup piece = none → place = .missing names piece) ∧
      (aim = .entry → entries.lookup piece ≠ none → place = .existing (names ++ [piece])) := by
  rw [follow_cons (by simp)] at h
  have hright : ∀ e, turn top names piece ≠ .wrong e := by
    intro e he
    rw [he] at h
    cases h
  obtain ⟨entries, hat, hlength⟩ := exists_directory_of_turn hname hright
  refine ⟨entries, hat, hlength, ?_⟩
  rw [turn_of_isName hname hat hlength] at h
  cases hlookup : entries.lookup piece with
  | none =>
    rw [hlookup] at h
    exact ⟨fun _ => (Except.ok.inj h).symm, fun _ hne => absurd rfl hne⟩
  | some node =>
    rw [hlookup] at h
    constructor
    · intro hnone
      cases hnone
    · rintro rfl _
      cases node with
      | link target => exact (Except.ok.inj h).symm
      | file content => exact (Except.ok.inj (follow_nil.symm.trans h)).symm
      | directory entries => exact (Except.ok.inj (follow_nil.symm.trans h)).symm
      | special reading => exact (Except.ok.inj (follow_nil.symm.trans h)).symm

/-- Where there is no entry of a name, the path leads to the place where it could be. -/
theorem follow_singleton_missing (hname : IsName piece) (hlength : piece.length ≤ maxNameLength)
    {entries : List (Bytes × FileTree)} (hat : top.at? names = some (.directory entries))
    (hnone : entries.lookup piece = none) :
    follow top .entry links names [piece] = .ok (.missing names piece) := by
  rw [follow_cons rfl, turn_of_isName hname hat hlength, hnone]
  rfl

/-! ## Whole paths -/

/-- Where a path starts. -/
def start (fs : FileSystem) (path : Path) : List Bytes := if path.isAbsolute then [] else fs.current

/-- What can be asked for at all. -/
structure IsProper (path : Path) : Prop where
  noZero : path.contains 0 = false
  nonempty : path ≠ []
  short : path.length ≤ maxPathLength

/-- The beginning of a path is proper if the path is. -/
theorem IsProper.of_append {path more : Path} (hpath : path ≠ []) (h : IsProper (path ++ more)) :
    IsProper path := by
  refine ⟨?_, hpath, ?_⟩
  · have hzero := h.noZero
    rw [List.contains_eq_any_beq, List.any_append, Bool.or_eq_false_iff] at hzero
    rw [List.contains_eq_any_beq]
    exact hzero.1
  · have := h.short
    rw [List.length_append] at this
    omega

theorem resolve_eq_follow {fs : FileSystem} {path : Path} (h : IsProper path) :
    fs.resolve aim path = follow fs.top aim maxLinks (fs.start path) path.pieces := by
  rw [resolve, h.noZero, List.isEmpty_eq_false_iff.mpr h.nonempty,
    if_neg Bool.false_ne_true, if_neg Bool.false_ne_true, if_neg (Nat.not_lt.mpr h.short)]
  rfl

theorem resolve_eq_ok_iff {fs : FileSystem} {path : Path} {place : Place} :
    fs.resolve aim path = .ok place ↔
      IsProper path ∧ follow fs.top aim maxLinks (fs.start path) path.pieces = .ok place := by
  constructor
  · intro h
    -- whatever is refused at once has no answer
    have hproper : IsProper path := by
      unfold resolve at h
      split at h
      · cases h
      · next hzero =>
        split at h
        · cases h
        · next hempty =>
          split at h
          · cases h
          · next hlong =>
            exact ⟨by simpa using hzero, by simpa using hempty, Nat.le_of_not_lt hlong⟩
    exact ⟨hproper, resolve_eq_follow hproper ▸ h⟩
  · rintro ⟨hproper, h⟩
    rw [resolve_eq_follow hproper, h]

/-! ## Other trees -/

/-- A tree that differs from another at most in one place, where it has a file and the other one has no
directory. -/
structure Patched (top other : FileTree) (place : List Bytes) : Prop where
  alike : ∀ names, ¬ place <+: names → FileTree.Alike (top.at? names) (other.at? names)
  file : ∃ content, other.at? place = some (.file content)
  noDirectory : ∀ entries, top.at? place ≠ some (.directory entries)

/-- Putting a file into a directory, where there is no directory of the name. -/
theorem patched_set {parent : List Bytes} {name : Bytes} {entries : List (Bytes × FileTree)}
    (h : top.at? parent = some (.directory entries))
    (hname : ∀ others, entries.lookup name ≠ some (.directory others)) (content : Bytes) :
    Patched top (top.set (parent ++ [name]) (some (.file content))) (parent ++ [name]) where
  alike _ hnames := FileTree.alike_set h _ hnames
  file := ⟨content, FileTree.at?_set_self h _⟩
  noDirectory others := by rw [FileTree.at?_append_singleton h]; exact hname others

namespace Patched

variable {other : FileTree} {place : List Bytes}

theorem not_directory (h : Patched top other place) (entries : List (Bytes × FileTree)) :
    other.at? place ≠ some (.directory entries) := by
  obtain ⟨content, hcontent⟩ := h.file
  rw [hcontent]
  intro heq
  cases heq

theorem at?_directory (h : Patched top other place) (hnames : ¬ place <+: names)
    {entries : List (Bytes × FileTree)} (hat : top.at? names = some (.directory entries)) :
    ∃ others, other.at? names = some (.directory others) := by
  rcases h.alike names hnames with heq | ⟨-, others, -, hothers⟩
  · exact ⟨entries, heq ▸ hat⟩
  · exact ⟨others, hothers⟩

/-- A piece does the same in both trees, or it leads to the place of the difference. -/
theorem turn_eq_or (h : Patched top other place) (hnames : ¬ place <+: names) (piece : Bytes) :
    turn other names piece = turn top names piece ∧
        (turn top names piece = .free ∨ (∃ target, turn top names piece = .link target) →
          names ++ [piece] ≠ place) ∧
        (∀ next, turn top names piece = .on next → ¬ place <+: next) ∨
      names ++ [piece] = place ∧ turn other names piece = .on place ∧
        turn top names piece = .under place (top.at? place) := by
  by_cases hdirectory : ∃ entries, top.at? names = some (.directory entries)
  · obtain ⟨entries, hat⟩ := hdirectory
    obtain ⟨others, hother⟩ := h.at?_directory hnames hat
    rw [turn, turn, hat, hother]
    dsimp only
    by_cases hidle : Path.isIdle piece = true
    · simp only [if_pos hidle]
      refine .inl ⟨trivial, by simp, fun next hnext => ?_⟩
      exact Turn.on.inj hnext ▸ hnames
    by_cases habove : piece = Path.above
    · simp only [if_neg hidle, if_pos habove]
      refine .inl ⟨trivial, by simp, fun next hnext => ?_⟩
      exact Turn.on.inj hnext ▸ fun hup => hnames (hup.trans (List.dropLast_prefix names))
    by_cases hlong : maxNameLength < piece.length
    · simp only [if_neg hidle, if_neg habove, if_pos hlong]
      exact .inl ⟨trivial, by simp, by simp⟩
    simp only [if_neg hidle, if_neg habove, if_neg hlong]
    by_cases hplace : names ++ [piece] = place
    · obtain ⟨content, hcontent⟩ := h.file
      rw [hplace, hcontent]
      exact .inr ⟨rfl, rfl, rfl⟩
    · have hnext : ¬ place <+: names ++ [piece] := by
        rw [List.prefix_concat_iff]
        rintro (heq | hbefore)
        · exact hplace heq.symm
        · exact hnames hbefore
      -- a turn does not look into directories, so alike nodes make for the same one
      have hunder : Turn.under (names ++ [piece]) (other.at? (names ++ [piece])) =
          Turn.under (names ++ [piece]) (top.at? (names ++ [piece])) := by
        rcases h.alike _ hnext with heq | ⟨entries, others, hentries, hothers⟩
        · rw [heq]
        · rw [hentries, hothers]
          rfl
      refine .inl ⟨hunder, fun _ => hplace, fun next hon => ?_⟩
      exact Turn.eq_of_under hon ▸ hnext
  · -- outside of directories nothing is looked up
    have hsame : other.at? names = top.at? names := by
      rcases h.alike names hnames with heq | ⟨entries, -, hentries, -⟩
      · exact heq.symm
      · exact absurd ⟨entries, hentries⟩ hdirectory
    obtain ⟨e, he⟩ := turn_eq_wrong (fun entries hat => hdirectory ⟨entries, hat⟩) piece
    refine .inl ⟨?_, by simp [he], by simp [he]⟩
    rw [turn, turn, hsame]
    cases hat : top.at? names with
    | none => rfl
    | some node =>
      cases node with
      | directory entries => exact absurd ⟨entries, hat⟩ hdirectory
      | file content => rfl
      | link target => rfl
      | special reading => rfl

/-- A path that leads to the place of the difference leads to the file there or nowhere; any other path
leads where it led before, or nowhere when it runs through that place. -/
theorem follow_entry (h : Patched top other place) (links : Nat) (names pieces : List Bytes)
    (hnames : ¬ place <+: names) :
    (follow other .entry links names pieces = follow top .entry links names pieces ∧
        ∀ found, follow top .entry links names pieces = .ok found → found.names ≠ place) ∨
      (follow other .entry links names pieces = .ok (.existing place) ∧
        ∃ found, follow top .entry links names pieces = .ok found ∧ found.names = place) ∨
      ∃ e, follow other .entry links names pieces = .error e := by
  induction links, pieces using follow_induction generalizing names with
  | nil links =>
    refine .inl ⟨by rw [follow_nil, follow_nil], fun found hfound heq => ?_⟩
    rw [follow_nil] at hfound
    cases hfound
    exact hnames (heq ▸ List.prefix_refl _)
  | cons links piece rest hrest hfewer =>
    rw [follow_cons rfl, follow_cons rfl]
    rcases h.turn_eq_or hnames piece with ⟨hsame, hplace, hnext⟩ | ⟨hplace, hother, htop⟩
    · rw [hsame]
      cases hturn : turn top names piece with
      | on next => exact hrest next (hnext next hturn)
      | wrong e => exact .inr (.inr ⟨e, rfl⟩)
      | free =>
        refine .inl ⟨rfl, fun found hfound => ?_⟩
        dsimp only at hfound
        split at hfound
        · cases hfound
          exact hplace (.inl hturn)
        · cases hfound
      | link target =>
        by_cases hend : rest.all List.isEmpty = true
        · refine .inl ⟨by simp [hend], fun found hfound => ?_⟩
          obtain rfl : Place.existing (names ++ [piece]) = found := by simpa [hend] using hfound
          exact hplace (.inr ⟨target, hturn⟩)
        · cases links with
          | zero => exact .inr (.inr ⟨.tooManyLinks, by simp [hend]⟩)
          | succ links =>
            have hstart : ¬ place <+: if target.isAbsolute then [] else names := by
              split
              · rw [List.prefix_nil]
                rintro rfl
                exact hnames (List.nil_prefix ..)
              · exact hnames
            simpa only [hend, Bool.and_false, Bool.false_eq_true, if_false] using
              hfewer links (Nat.lt_succ_self links) _ _ hstart
    · -- the path arrives at the place of the difference
      rw [hother, htop]
      cases rest with
      | cons next more => exact .inr (.inr (follow_cons_error h.not_directory))
      | nil =>
        refine .inr (.inl ⟨follow_nil, ?_⟩)
        cases hnode : top.at? place with
        | none => exact ⟨_, rfl, hplace⟩
        | some node =>
          cases node with
          | directory entries => exact absurd hnode (h.noDirectory entries)
          | file content => exact ⟨_, follow_nil, rfl⟩
          | special reading => exact ⟨_, follow_nil, rfl⟩
          | link target => exact ⟨_, rfl, hplace⟩

/-- Nothing stands below the place of the difference. -/
theorem not_below (h : Patched top other place) {entries : List (Bytes × FileTree)}
    (hat : other.at? names = some (.directory entries)) : ¬ place <+: names := by
  rintro ⟨more, rfl⟩
  obtain ⟨content, hcontent⟩ := h.file
  rw [FileTree.at?_append, hcontent, Option.bind_some] at hat
  cases more with
  | nil => cases hat
  | cons name more => simp [FileTree.at?, FileTree.entry?, FileTree.entries] at hat

end Patched

/-- Where a path of a file system leads after a file was put somewhere. -/
theorem Patched.resolve_entry {fs other : FileSystem} {place : List Bytes}
    (h : Patched fs.top other.top place) (hcurrent : other.current = fs.current) (path : Path) :
    (other.resolve .entry path = fs.resolve .entry path ∧
        ∀ found, fs.resolve .entry path = .ok found → found.names ≠ place) ∨
      (other.resolve .entry path = .ok (.existing place) ∧
        ∃ found, fs.resolve .entry path = .ok found ∧ found.names = place) ∨
      ∃ e, other.resolve .entry path = .error e := by
  cases hother : other.resolve .entry path with
  | error e => exact .inr (.inr ⟨e, rfl⟩)
  | ok found =>
    obtain ⟨hproper, hfollow⟩ := resolve_eq_ok_iff.mp hother
    have hstart : other.start path = fs.start path := by rw [start, start, hcurrent]
    rw [hstart] at hfollow
    rw [resolve_eq_follow hproper, ← hfollow]
    -- the start is a directory, and nothing stands below a file
    refine h.follow_entry maxLinks (fs.start path) path.pieces ?_
    obtain ⟨piece, rest, hpieces⟩ := List.exists_cons_of_ne_nil (Path.piecesFrom_ne_nil [] path)
    rw [Path.pieces, hpieces] at hfollow
    by_cases hdirectory : ∃ entries, other.top.at? (fs.start path) = some (.directory entries)
    · obtain ⟨entries, hat⟩ := hdirectory
      exact h.not_below hat
    · obtain ⟨e, he⟩ := follow_cons_error fun entries h => hdirectory ⟨entries, h⟩
      rw [he] at hfollow
      cases hfollow

/-- A path that leads to the place where a file was put leads to the file, if it leads anywhere. -/
theorem Patched.node_eq {fs other : FileSystem} {place : List Bytes} {found : Place}
    (h : Patched fs.top other.top place) (hcurrent : other.current = fs.current) {path : Path}
    (hfound : fs.resolve .entry path = .ok found) (hplace : found.names = place) {tree : FileTree}
    (hnode : other.node path = .ok tree) : other.top.at? place = some tree := by
  have hentry := h.resolve_entry hcurrent path
  rw [node] at hnode
  cases hresolve : other.resolve .node path with
  | error e => rw [hresolve] at hnode; cases hnode
  | ok reached =>
    cases reached with
    | missing above name => rw [hresolve] at hnode; cases hnode
    | existing names =>
      rw [hresolve] at hnode
      dsimp only at hnode
      obtain ⟨hproper, hfollow⟩ := resolve_eq_ok_iff.mp hresolve
      rw [resolve_eq_follow hproper] at hentry
      rcases hentry with ⟨-, hne⟩ | ⟨hthere, -⟩ | ⟨e, he⟩
      · exact absurd hplace (hne found hfound)
      · -- the file is no link, so it makes no difference that links are followed
        rcases follow_node_eq_or other.top maxLinks (other.start path) path.pieces with
          heq | ⟨last, target, hlast, hlink⟩
        · rw [hfollow, hthere] at heq
          obtain rfl : names = place := by simpa using heq
          cases hat : other.top.at? names with
          | none => rw [hat] at hnode; cases hnode
          | some node =>
            rw [hat] at hnode
            exact congrArg some (Except.ok.inj hnode)
        · obtain ⟨content, hcontent⟩ := h.file
          obtain rfl : place = last := by simpa [hthere] using hlast
          rw [hcontent] at hlink
          cases hlink
      · rcases follow_node_eq_or other.top maxLinks (other.start path) path.pieces with
          heq | ⟨last, target, hlast, -⟩
        · rw [hfollow, he] at heq
          cases heq
        · rw [he] at hlast
          cases hlast

/-! ## The last name of a path -/

/-- The last piece of a path that ends in a name is this name. -/
theorem exists_pieces_of_endsInName {path : Path} (hpath : path ≠ []) (hname : endsInName path = true)
    (hslash : path.endsInSlash = false) : ∃ above last, path.pieces = above ++ [last] ∧ IsName last := by
  obtain ⟨above, last, hpieces⟩ :=
    (List.eq_nil_or_concat path.pieces).resolve_left (Path.piecesFrom_ne_nil [] path)
  rw [List.concat_eq_append] at hpieces
  -- the path has no slash at its end, so its last piece is not empty
  have hlast : last ≠ [] := by
    rintro rfl
    have hend : path.pieces.getLast? = some [] := by rw [hpieces, List.getLast?_concat]
    rcases Path.endsInSlash_of_getLast? hend with ⟨hnil, -⟩ | hend
    · exact hpath hnil
    · rw [hslash] at hend
      cases hend
  have hfilter : ([last] : List Bytes).filter (! ·.isEmpty) = [last] := by
    simp [List.isEmpty_eq_false_iff.mpr hlast]
  rw [endsInName, hpieces, List.filter_append, hfilter, List.getLast?_concat] at hname
  simp only [Bool.and_eq_true, decide_not, Bool.not_eq_true', decide_eq_false_iff_not] at hname
  exact ⟨above, last, hpieces, by simp [Path.isIdle, hlast, hname.1], hname.2⟩

theorem IsName.all_isEmpty (h : IsName piece) : [piece].all List.isEmpty = false := by
  cases piece with
  | nil => cases h.1
  | cons byte piece => rfl

/-- A path that ends in a name leads to the entry of this name in the directory that its other pieces lead to. -/
theorem exists_parent_of_resolve_entry {fs : FileSystem} {path : Path} {above : List Bytes} {last : Bytes}
    {place : Place} (hpieces : path.pieces = above ++ [last]) (hname : IsName last)
    (h : fs.resolve .entry path = .ok place) :
    ∃ parent entries, follow fs.top .node maxLinks (fs.start path) above = .ok (.existing parent) ∧
      fs.top.at? parent = some (.directory entries) ∧ last.length ≤ maxNameLength ∧
      place.names = parent ++ [last] ∧
      (entries.lookup last ≠ none → place = .existing (parent ++ [last])) := by
  obtain ⟨-, hfollow⟩ := resolve_eq_ok_iff.mp h
  rw [hpieces] at hfollow
  rcases follow_append fs.top .entry maxLinks (fs.start path) above hname.all_isEmpty with
    ⟨parent, fewer, hparent, heq⟩ | ⟨-, e, he⟩
  · rw [heq] at hfollow
    obtain ⟨entries, hat, hlength, hnone, hsome⟩ := follow_singleton hname hfollow
    refine ⟨parent, entries, hparent, hat, hlength, ?_, hsome rfl⟩
    by_cases hlookup : entries.lookup last = none
    · rw [hnone hlookup]
      rfl
    · rw [hsome rfl hlookup]
      rfl
  · rw [he] at hfollow
    cases hfollow

/-- A path that ends in a name leads to an entry of this name in a directory. -/
theorem resolve_entry_eq_ok {fs : FileSystem} {path : Path} {place : Place}
    (hname : endsInName path = true) (hslash : path.endsInSlash = false)
    (h : fs.resolve .entry path = .ok place) :
    ∃ parent name entries, fs.top.at? parent = some (.directory entries) ∧
      place.names = parent ++ [name] ∧
      (entries.lookup name ≠ none → place = .existing (parent ++ [name])) := by
  obtain ⟨above, last, hpieces, hlast⟩ :=
    exists_pieces_of_endsInName (resolve_eq_ok_iff.mp h).1.nonempty hname hslash
  obtain ⟨parent, entries, -, hat, -, hplace, hthere⟩ := exists_parent_of_resolve_entry hpieces hlast h
  exact ⟨parent, last, entries, hat, hplace, hthere⟩

end TrigramGrep.FileSystem
