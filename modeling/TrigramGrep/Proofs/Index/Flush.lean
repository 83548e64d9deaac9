import TrigramGrep.Index.Reader
import TrigramGrep.Index.Writer
import TrigramGrep.Proofs.FileSystem.Temporary
import TrigramGrep.Proofs.FileSystem.Trail

/-!
# Writing an index to a path

When an index has been written, the file system is the one before with one entry changed: the one that the
path leads to is a file with the bytes of the index (`Writer.Written`).  The temporary file is in its own place
while it is there, so taking it away gives back what was before.

All this is said of every host whose temporary files are what is relied on (`TemporaryFiles.Lawful`), whatever it
refuses.
-/

namespace TrigramGrep.FileSystem

/-- What a successful renaming does. -/
theorem rename_eq_ok {fs renamed : FileSystem} {source target : Path}
    (h : fs.rename source target = .ok renamed) :
    ∃ names place, fs.resolve .entry source = .ok (.existing names) ∧
      fs.resolve .entry target = .ok place ∧ endsInName target = true ∧
      target.endsInSlash = false ∧
      (∀ others entries, place = .existing others → fs.top.at? others ≠ some (.directory entries)) ∧
      renamed = if place = .existing names then fs
        else (fs.setAt names none).setAt place.names (fs.top.at? names) := by
  unfold rename at h
  split at h
  -- all other cases are errors of the two paths
  case h_6 names place hsource htarget =>
    dsimp only at h
    split at h
    · cases h
    next hname =>
    split at h
    · cases h
    next hslash =>
    refine ⟨names, place, hsource, htarget, by simpa using hname, by simpa using hslash, ?_⟩
    cases place with
    | missing above name =>
      refine ⟨fun _ _ heq => ?_, (Except.ok.inj h).symm⟩
      cases heq
    | existing others =>
      dsimp only at h
      split at h
      · cases h
      next hno =>
      refine ⟨fun _ entries heq hat => hno entries (Place.existing.inj heq ▸ hat), ?_⟩
      split at h
      · next heq =>
        subst heq
        rw [if_pos rfl]
        exact (Except.ok.inj h).symm
      · next hne =>
        rw [if_neg fun hplace => hne (Place.existing.inj hplace).symm]
        exact (Except.ok.inj h).symm
  all_goals cases h

/-- A file that was put in a free entry and then gets another path takes the place that this path leads to, where
there is no directory.  Its own entry is free again. -/
theorem LeadsToEntry.rename_of_free {fs renamed : FileSystem} {temporary path : Path} {place : List Bytes}
    (hentry : LeadsToEntry fs temporary place) (hfree : fs.top.at? place = none) (bytes : Bytes)
    (h : (fs.setAt place (some (.file bytes))).rename temporary path = .ok renamed) :
    ∃ target, LeadsToEntry fs path target ∧ renamed = fs.setAt target (some (.file bytes)) := by
  obtain ⟨names, reached, hsource, htarget, hname, hslash, hfile, hrenamed⟩ := rename_eq_ok h
  have hends := exists_pieces_of_endsInName (resolve_eq_ok_iff.mp htarget).1.nonempty hname hslash
  have hpatch := hentry.patched bytes
  have hmoved := hentry.at?_setAt bytes
  -- the file stands where it was put, and without it everything is as before
  have hthere := hentry.resolve_of_free hfree bytes .entry
  obtain rfl : place = names := Place.existing.inj (Except.ok.inj (hthere.symm.trans hsource))
  obtain ⟨parent, name, entries, rfl, hparent, hlookup⟩ := hentry.exists_free hfree
  have hback : (fs.setAt (parent ++ [name]) (some (.file bytes))).setAt (parent ++ [name]) none = fs := by
    rw [setAt, setAt, FileTree.set_none_set hparent hlookup]
  rw [hmoved, hback] at hrenamed
  rcases hpatch.resolve_entry rfl path with ⟨heq, hne⟩ | ⟨heq, found, hfound, hnames⟩ | ⟨e, he⟩
  · -- the path leads elsewhere, to a place where there is no directory even without the new file
    rw [heq] at htarget
    have hother := hne reached htarget
    obtain ⟨above, last, others, habove, hplace, hthere⟩ := resolve_entry_eq_ok hname hslash htarget
    refine ⟨reached.names, ⟨hends, ⟨reached, htarget, rfl⟩, fun entries hentries => ?_⟩, ?_⟩
    · rw [hplace] at hentries
      obtain ⟨entries, hdirectory⟩ :=
        hpatch.at?_directory (FileTree.not_below_free hparent hlookup hentries) hentries
      rw [FileTree.at?_append_singleton habove] at hentries
      exact hfile _ entries (hthere (by simp [hentries])) hdirectory
    · rw [hrenamed, if_neg]
      rintro rfl
      exact hother rfl
  · -- the path is that of the file itself
    rw [heq] at htarget
    obtain rfl : Place.existing (parent ++ [name]) = reached := Except.ok.inj htarget
    refine ⟨parent ++ [name], ⟨hends, ⟨found, hfound, hnames⟩, hpatch.noDirectory⟩, ?_⟩
    rw [hrenamed, if_pos rfl]
  · rw [he] at htarget
    cases htarget

end TrigramGrep.FileSystem

namespace TrigramGrep.Index

/-- The usual host has such temporary files. -/
theorem Host.lawful_usual : Host.usual.temporaries.Lawful := TemporaryFiles.lawful_numbered

namespace Writer

open FileSystem

variable {host : Host} {fs : FileSystem} {directory path : Path}

/-! ## Replacing a file -/

/-- What comes of a replacement: it fails and changes nothing, or the entry that the path leads to, which is no
directory, becomes a file with the bytes. -/
theorem replaceAgainst_cases (hlawful : host.temporaries.Lawful) (hdirectory : directory ≠ [])
    (breaks : FileSystem → Path → Option (Nat × WriteFault)) (fs : FileSystem) (path : Path) (bytes : Bytes) :
    (∃ fault, replaceAgainst host breaks fs directory path bytes = (.error fault, fs)) ∨
      ∃ place, LeadsToEntry fs path place ∧
        replaceAgainst host breaks fs directory path bytes = (.ok (), fs.setAt place (some (.file bytes))) := by
  unfold replaceAgainst
  cases hcreate : host.temporaries.create fs directory with
  | error e => exact .inl ⟨_, rfl⟩
  | ok created =>
    obtain ⟨temporary, made⟩ := created
    obtain ⟨place, hentry, hfree, rfl⟩ := hlawful.create hdirectory hcreate
    dsimp only
    generalize breaks (fs.setAt place (some (.file []))) temporary = broken
    -- whatever was written, without the temporary file everything is as before
    have hdiscard (content : Bytes) :
        host.temporaries.discard (fs.setAt place (some (.file content))) temporary = fs :=
      (hlawful.discard _ temporary).trans (hentry.remove_of_free hfree content)
    rw [hentry.write_of_free hfree]
    dsimp only
    cases broken with
    | some broken =>
      refine .inl ⟨broken.2, ?_⟩
      dsimp only
      rw [hdiscard]
    | none =>
      dsimp only [Option.elim_none]
      cases hpersist : host.temporaries.persist (fs.setAt place (some (.file bytes))) temporary path with
      | mk result left =>
        cases result with
        | error e =>
          obtain rfl := hlawful.unpersisted hpersist
          refine .inl ⟨.index path e, ?_⟩
          dsimp only
          rw [hdiscard]
        | ok _ =>
          obtain ⟨target, htarget, rfl⟩ := hentry.rename_of_free hfree bytes (hlawful.persist hpersist)
          exact .inr ⟨target, htarget, rfl⟩

theorem directoryOf_ne_nil (path : Path) : directoryOf path ≠ [] := by
  unfold directoryOf
  split
  · split
    · simp [Path.here]
    · next directory hne => simpa using hne
  · simp [Path.here]

/-! ## Flushing -/

/-- What comes of a flush: it fails and has made directories at most, or the entry that the path leads to when its
directory is there becomes a file with the bytes of what the writer says. -/
theorem flushAgainst_cases (hlawful : host.temporaries.Lawful) (w : Writer) (path : Path) (fs : FileSystem) :
    (∃ fault, w.flushAgainst host path fs =
        (.error fault, (fs.makeDirectoriesAgainst host.toObstacles (directoryOf path)).2)) ∨
      ∃ ready place, fs.makeDirectoriesAgainst host.toObstacles (directoryOf path) = (.ok (), ready) ∧
        LeadsToEntry ready path place ∧
        w.flushAgainst host path fs =
          (.ok w.contents.summary, ready.setAt place (some (.file w.contents.encode))) := by
  unfold flushAgainst
  dsimp only
  generalize fs.makeDirectoriesAgainst host.toObstacles (directoryOf path) = made
  obtain ⟨result, ready⟩ := made
  cases result with
  | error e => exact .inl ⟨_, rfl⟩
  | ok _ =>
    dsimp only
    rcases replaceAgainst_cases hlawful (directoryOf_ne_nil path) (w.breaksOff host w.contents.encode) ready path
      w.contents.encode with ⟨fault, herror⟩ | ⟨place, hentry, hok⟩
    · rw [herror]
      exact .inl ⟨fault, rfl⟩
    · rw [hok]
      exact .inr ⟨ready, place, rfl, hentry, rfl⟩

/-- Bytes have been written to a path: the entry that the path led to when its directory was there is a file with
these bytes.  Here `ready` are the files when the directory was there, and `later` those afterwards. -/
structure Written (ready later : FileSystem) (path : Path) (place : List Bytes) (bytes : Bytes) : Prop where
  leads : LeadsToEntry ready path place
  entry : later.top.at? place = some (.file bytes)
  /-- A path that leads anywhere leads to this file. -/
  node : ∀ tree, later.node path = .ok tree → tree = .file bytes
  /-- It does, unless the entry was a link that the path visits before its last piece. -/
  read : (∀ target, ready.top.at? place = some (.link target) → place ∉ ready.trailAbove path) →
    later.read path = .ok bytes

theorem written_setAt {ready : FileSystem} {place : List Bytes} (h : LeadsToEntry ready path place) (bytes : Bytes) :
    Written ready (ready.setAt place (some (.file bytes))) path place bytes where
  leads := h
  entry := h.at?_setAt bytes
  node _ hnode := h.eq_file_of_node hnode
  read hlink := by
    refine h.read_setAt ?_ bytes
    by_cases htarget : ∃ target, ready.top.at? place = some (.link target)
    · obtain ⟨target, htarget⟩ := htarget
      exact hlink target htarget
    · exact h.notMem_trailAbove fun target heq => htarget ⟨target, heq⟩

/-- A path that can be read leads to a node. -/
theorem node_of_read {content : Bytes} (h : fs.read path = .ok content) : ∃ tree, fs.node path = .ok tree := by
  rw [FileSystem.read] at h
  cases hnode : fs.node path with
  | ok tree => exact ⟨tree, rfl⟩
  | error e =>
    rw [hnode] at h
    cases h

/-- What is opened are the bytes that were written. -/
theorem Written.openFile {ready later : FileSystem} {place : List Bytes} {bytes : Bytes}
    (h : Written ready later path place bytes)
    (hlink : ∀ target, ready.top.at? place = some (.link target) → place ∉ ready.trailAbove path) :
    Reader.openFile later path = Reader.ofBytes path bytes := by
  obtain ⟨tree, htree⟩ := node_of_read (h.read hlink)
  rw [Reader.openFile, htree, h.node tree htree]

/-- A successful flush has written what the writer says, and tells of that. -/
theorem written_of_flushAgainst (hlawful : host.temporaries.Lawful) {w : Writer} {flushed : FileSystem}
    {summary : Summary} (h : w.flushAgainst host path fs = (.ok summary, flushed)) :
    summary = w.contents.summary ∧
      ∃ ready place, fs.makeDirectoriesAgainst host.toObstacles (directoryOf path) = (.ok (), ready) ∧
        Written ready flushed path place w.contents.encode := by
  rcases flushAgainst_cases hlawful w path fs with ⟨fault, herror⟩ | ⟨ready, place, hready, hentry, hok⟩
  · cases h.symm.trans herror
  · obtain ⟨hsummary, rfl⟩ := Prod.mk.inj (h.symm.trans hok)
    exact ⟨Except.ok.inj hsummary, ready, place, hready, written_setAt hentry _⟩

/-- An entry that was no link is not visited before the last piece of its path. -/
theorem Written.notMem_trailAbove {ready later : FileSystem} {place : List Bytes} {bytes : Bytes} {reached : Place}
    (h : Written ready later path place bytes) (hreached : ready.resolve .entry path = .ok reached)
    (hlink : ∀ target, ready.top.at? reached.names ≠ some (.link target)) :
    ∀ target, ready.top.at? place = some (.link target) → place ∉ ready.trailAbove path := by
  obtain ⟨other, hother, rfl⟩ := h.leads.reached
  obtain rfl : reached = other := Except.ok.inj (hreached.symm.trans hother)
  exact fun target htarget => absurd htarget (hlink target)

end Writer

end TrigramGrep.Index
