import Mathlib.Data.List.Nodup
import Mathlib.Data.List.Perm.Subperm
import Std.Data.String.ToNat
import TrigramGrep.FileSystem.Temporary
import TrigramGrep.Proofs.FileSystem.Trail
import TrigramGrep.Proofs.Path
import TrigramGrep.Proofs.Text.Utf8

/-!
# Temporary files

What is relied on of temporary files, however they are named, is `TemporaryFiles.Lawful`: such a file is made as an
entry that was not there before, it is given another path at once or not at all, and it can be taken away.  So to
make one, to write it and to take it away changes nothing.

Files with numbers in their names are an instance (`TemporaryFiles.lawful_numbered`): a directory has fewer entries
than there are names to choose from, so one of them is free.
-/

namespace TrigramGrep.FileSystem

/-! ## Free entries -/

namespace LeadsToEntry

variable {fs : FileSystem} {path : Path} {place : List Bytes}

/-- An entry that is not there is free in a directory. -/
theorem exists_free (h : LeadsToEntry fs path place) (hfree : fs.top.at? place = none) :
    ∃ parent last entries, place = parent ++ [last] ∧ fs.top.at? parent = some (.directory entries) ∧
      entries.lookup last = none := by
  obtain ⟨parent, last, entries, rfl, hparent, -⟩ := h.exists_parent
  rw [FileTree.at?_append_singleton hparent] at hfree
  exact ⟨parent, last, entries, rfl, hparent, hfree⟩

/-- A file that was put in a free entry is found there, whatever is wanted of it. -/
theorem resolve_of_free (h : LeadsToEntry fs path place) (hfree : fs.top.at? place = none) (content : Bytes)
    (aim : Aim) : (fs.setAt place (some (.file content))).resolve aim path = .ok (.existing place) := by
  refine h.resolve_setAt (h.notMem_trailAbove fun target hlink => ?_) content aim
  cases hfree.symm.trans hlink

/-- It can be written once more. -/
theorem write_of_free (h : LeadsToEntry fs path place) (hfree : fs.top.at? place = none) (content bytes : Bytes) :
    (fs.setAt place (some (.file content))).write path bytes = .ok (fs.setAt place (some (.file bytes))) := by
  obtain ⟨parent, last, entries, rfl, hparent, -⟩ := h.exists_free hfree
  rw [write, h.resolve_of_free hfree content .file]
  dsimp only
  rw [h.at?_setAt content]
  dsimp only
  rw [setAt, setAt, setAt, FileTree.set_set hparent]

/-- It can be taken away. -/
theorem remove_of_free (h : LeadsToEntry fs path place) (hfree : fs.top.at? place = none) (content : Bytes) :
    (fs.setAt place (some (.file content))).remove path = fs := by
  obtain ⟨parent, last, entries, rfl, hparent, hlookup⟩ := h.exists_free hfree
  rw [remove, h.resolve_of_free hfree content .entry]
  dsimp only
  rw [setAt, setAt, FileTree.set_none_set hparent hlookup]

end LeadsToEntry

end FileSystem

/-! ## Laws -/

open FileSystem

/-- What is relied on of temporary files. -/
structure TemporaryFiles.Lawful (t : TemporaryFiles) : Prop where
  /-- A temporary file is made, without content, as an entry that was not there. -/
  create : ∀ {fs made : FileSystem} {directory temporary : Path}, directory ≠ [] →
    t.create fs directory = .ok (temporary, made) →
    ∃ place, LeadsToEntry fs temporary place ∧ fs.top.at? place = none ∧ made = fs.setAt place (some (.file []))
  /-- It gets another path by being renamed. -/
  persist : ∀ {fs renamed : FileSystem} {temporary target : Path},
    t.persist fs temporary target = (.ok (), renamed) → fs.rename temporary target = .ok renamed
  /-- If it cannot get the path, nothing happens. -/
  unpersisted : ∀ {fs left : FileSystem} {temporary target : Path} {e : SystemError},
    t.persist fs temporary target = (.error e, left) → left = fs
  /-- It is given up by being removed. -/
  discard : ∀ (fs : FileSystem) (temporary : Path), t.discard fs temporary = fs.remove temporary

namespace FileSystem

/-! ## Names with numbers -/

theorem temporaryName_injective : Function.Injective temporaryName := by
  intro m n h
  have htext := congrArg Text.Utf8.decode h
  rw [temporaryName, temporaryName, Text.Utf8.decode_ofString, Text.Utf8.decode_ofString] at htext
  have hlist := congrArg String.toList (Except.ok.inj htext)
  rw [String.toList_append, String.toList_append] at hlist
  exact Nat.repr_injective (String.toList_inj.mp (List.append_cancel_left hlist))

/-- The bytes of the name of a temporary file: a dot, letters and digits. -/
theorem temporaryName_eq (n : Nat) :
    temporaryName n = [46, 116, 109, 112] ++ (Nat.toDigits 10 n).flatMap String.utf8EncodeChar := by
  have hdigits : (toString n).toList = Nat.toDigits 10 n := Nat.toList_repr
  rw [temporaryName, Bytes.ofString_eq_flatMap, String.toList_append, List.flatMap_append, hdigits]
  rfl

theorem slash_notMem_temporaryName (n : Nat) : Path.slash ∉ temporaryName n := by
  rw [temporaryName_eq, List.mem_append, not_or]
  refine ⟨by decide, fun h => ?_⟩
  obtain ⟨c, hc, hbyte⟩ := List.mem_flatMap.mp h
  have hdigit := Nat.isDigit_of_mem_toDigits (by decide) (by decide) hc
  have hvalue : 48 ≤ c.val.toNat ∧ c.val.toNat ≤ 57 := by
    simpa [Char.isDigit, UInt32.le_iff_toNat_le] using hdigit
  rw [String.utf8EncodeChar, if_pos (by omega), List.mem_singleton] at hbyte
  have := congrArg UInt8.toNat hbyte
  rw [UInt8.toNat_ofNat_of_lt' (by simp only [UInt8.size]; omega)] at this
  simp only [Path.slash, UInt8.reduceToNat] at this
  omega

theorem isName_temporaryName (n : Nat) : IsName (temporaryName n) := by
  rw [temporaryName_eq]
  exact ⟨rfl, by simp [Path.above]⟩

/-- One of the names that are tried is free. -/
theorem lookup_temporaryPath (fs : FileSystem) (directory : Path) :
    ∃ n, fs.temporaryPath directory = directory.join (temporaryName n) ∧
      ∀ entries, fs.node directory = .ok (.directory entries) →
        entries.lookup (temporaryName n) = none := by
  rw [temporaryPath]
  generalize htaken : (fs.node directory).toOption.elim [] FileTree.entries = taken
  refine ⟨_, rfl, fun entries hentries => ?_⟩
  obtain rfl : entries = taken := by rw [← htaken, hentries]; rfl
  cases hfree : (List.range (entries.length + 1)).find? fun n =>
      (entries.lookup (temporaryName n)).isNone with
  | some n => simpa using List.find?_some hfree
  | none =>
    -- otherwise there would be more names than entries
    have hused : (List.range (entries.length + 1)).map temporaryName ⊆ entries.map Prod.fst := by
      intro name hname
      obtain ⟨n, hn, rfl⟩ := List.mem_map.mp hname
      have hfound := List.find?_eq_none.mp hfree n hn
      rw [Option.isNone_iff_eq_none] at hfound
      obtain ⟨node, hnode⟩ := Option.ne_none_iff_exists'.mp hfound
      obtain ⟨before, behind, rfl, -⟩ := List.lookup_eq_some_iff.mp hnode
      simp
    have hnodup : ((List.range (entries.length + 1)).map temporaryName).Nodup :=
      List.Nodup.map temporaryName_injective List.nodup_range
    have := (hnodup.subperm hused).length_le
    simp only [List.length_map, List.length_range] at this
    omega

/-- The path of a temporary file ends in its name. -/
theorem exists_pieces_temporaryPath (fs : FileSystem) {directory : Path} (hdirectory : directory ≠ []) :
    ∃ above last, (fs.temporaryPath directory).pieces = above ++ [last] ∧ IsName last := by
  obtain ⟨n, htemporary, -⟩ := lookup_temporaryPath fs directory
  obtain ⟨above, hpieces, -⟩ := Path.pieces_join hdirectory (slash_notMem_temporaryName n)
  exact ⟨above, temporaryName n, htemporary ▸ hpieces, isName_temporaryName n⟩

/-! ## Writing -/

/-- A file of such a name is written in a place where nothing was. -/
theorem write_temporaryPath {fs written : FileSystem} {directory : Path} {content : Bytes}
    (hdirectory : directory ≠ []) (h : fs.write (fs.temporaryPath directory) content = .ok written) :
    ∃ parent name entries, fs.top.at? parent = some (.directory entries) ∧
      entries.lookup name = none ∧
      fs.resolve .entry (fs.temporaryPath directory) = .ok (.missing parent name) ∧
      written = fs.setAt (parent ++ [name]) (some (.file content)) := by
  obtain ⟨n, htemporary, hfree⟩ := lookup_temporaryPath fs directory
  have hname := isName_temporaryName n
  have hslash := slash_notMem_temporaryName n
  rw [htemporary] at h ⊢
  generalize temporaryName n = name at hfree hname hslash h ⊢
  obtain ⟨above, hpieces, hdirectoryPieces⟩ := Path.pieces_join hdirectory hslash
  have hstart : fs.start (directory.join name) = fs.start directory := by
    rw [start, start, Path.isAbsolute_join hdirectory hslash]
  cases hresolve : fs.resolve .file (directory.join name) with
  | error e => rw [write, hresolve] at h; cases h
  | ok place =>
    obtain ⟨hproper, hfollow⟩ := resolve_eq_ok_iff.mp hresolve
    rw [hpieces, hstart] at hfollow
    have hrest : [name].all List.isEmpty = false := by
      cases name with
      | nil => cases hname.1
      | cons byte name => rfl
    -- the directory's own pieces lead to a node, in which the name is looked up
    obtain ⟨found, fewer, hfound, hlast⟩ :=
      (follow_append fs.top .file maxLinks (fs.start directory) above hrest).resolve_right (by
        rintro ⟨-, e, he⟩
        rw [he] at hfollow
        cases hfollow)
    rw [hlast] at hfollow
    obtain ⟨entries, hentries, hlength, hmissing, -⟩ := follow_singleton hname hfollow
    have hnode : fs.node directory = .ok (.directory entries) := by
      have hdirectoryProper : IsProper directory := by
        rw [Path.join_eq hdirectory hslash] at hproper
        exact hproper.of_append hdirectory
      have hpath : follow fs.top .node maxLinks (fs.start directory) directory.pieces =
          .ok (.existing found) := by
        rcases hdirectoryPieces with heq | heq <;> rw [heq]
        · exact hfound
        · exact follow_append_empty hentries hfound
      rw [node, resolve_eq_follow hdirectoryProper, hpath]
      dsimp only
      rw [hentries]
    have hlookup := hfree entries hnode
    obtain rfl := hmissing hlookup
    refine ⟨found, name, entries, hentries, hlookup, ?_, ?_⟩
    · obtain ⟨other, links, hother, hentry⟩ :=
        (follow_append fs.top .entry maxLinks (fs.start directory) above hrest).resolve_right
          fun hnone => hnone.1 found hfound
      obtain rfl : found = other := by simpa [hfound] using hother
      rw [resolve_eq_follow hproper, hpieces, hstart, hentry,
        follow_singleton_missing hname hlength hentries hlookup]
    · rw [write, hresolve] at h
      exact (Except.ok.inj h).symm

/-- So the path of a temporary file leads to an entry that was not there. -/
theorem leadsToEntry_temporaryPath {fs made : FileSystem} {directory : Path} {content : Bytes}
    (hdirectory : directory ≠ []) (h : fs.write (fs.temporaryPath directory) content = .ok made) :
    ∃ place, LeadsToEntry fs (fs.temporaryPath directory) place ∧ fs.top.at? place = none ∧
      made = fs.setAt place (some (.file content)) := by
  obtain ⟨parent, name, entries, hparent, hfree, hresolve, hmade⟩ := write_temporaryPath hdirectory h
  have hnone : fs.top.at? (parent ++ [name]) = none := (FileTree.at?_append_singleton hparent).trans hfree
  refine ⟨parent ++ [name], ?_, hnone, hmade⟩
  exact
    { name := exists_pieces_temporaryPath fs hdirectory
      reached := ⟨_, hresolve, rfl⟩
      noDirectory := fun others hothers => by cases hnone.symm.trans hothers }

end FileSystem

/-- Temporary files with numbers in their names are what is relied on. -/
theorem TemporaryFiles.lawful_numbered : numbered.Lawful where
  create {fs made directory temporary} hdirectory h := by
    rw [numbered] at h
    dsimp only at h
    cases hwrite : fs.write (fs.temporaryPath directory) [] with
    | error e =>
      rw [hwrite] at h
      cases h
    | ok written =>
      rw [hwrite] at h
      obtain ⟨rfl, rfl⟩ := Prod.mk.inj (Except.ok.inj h)
      exact leadsToEntry_temporaryPath hdirectory hwrite
  persist {fs renamed temporary target} h := by
    rw [numbered] at h
    dsimp only at h
    cases hrename : fs.rename temporary target with
    | error e =>
      rw [hrename] at h
      cases h
    | ok after =>
      rw [hrename] at h
      rw [(Prod.mk.inj h).2]
  unpersisted {fs left temporary target e} h := by
    rw [numbered] at h
    dsimp only at h
    cases hrename : fs.rename temporary target with
    | error e =>
      rw [hrename] at h
      exact (Prod.mk.inj h).2.symm
    | ok after =>
      rw [hrename] at h
      cases h
  discard _ _ := rfl

end TrigramGrep
