import Mathlib
import TrigramGrep.Proofs.FileSystem.Growth
import TrigramGrep.Proofs.Index.Flush

/-!
# An index is written whole or not at all

Whatever goes wrong while an index is written, and whatever the host refuses on the way, all files and links are
afterwards what they were before: at most some directories have come.  When nothing goes wrong, one entry has become
a file with all bytes of the index, and again nothing else has changed.  In both cases the temporary file is gone.

The entry is the one that the path leads to when the directory of the index is there.  If it was a link, it is
replaced and not followed.  So a path that comes through this very link on its way leads nowhere afterwards.
-/

namespace TrigramGrep.Index.Writer

open FileSystem

/-- **Writing an index is atomic.**  Whatever the host refuses, as long as its temporary files are what is relied on,
for every writer, path and file system:

* if it fails, there are the same files and links as before, and all directories are still there;
* if it succeeds, the entry that the path leads to is a file of as many bytes as are told, and everywhere else there
  are the same files and links as before.  The path leads to this file, if it leads anywhere; and it does so unless
  the entry was a link that the path visits before its last piece. -/
theorem flushAgainst_atomic {host : Host} (hlawful : host.temporaries.Lawful) (w : Writer) (path : Path)
    (fs : FileSystem) :
    (∀ fault later, w.flushAgainst host path fs = (.error fault, later) →
        Grown [] fs.top later.top ∧ later.current = fs.current) ∧
      ∀ summary later, w.flushAgainst host path fs = (.ok summary, later) →
        ∃ ready place content,
          fs.makeDirectoriesAgainst host.toObstacles (directoryOf path) = (.ok (), ready) ∧
            LeadsToEntry ready path place ∧
            later.top.at? place = some (.file content) ∧ content.length = summary.bytes ∧
            Grown [place] fs.top later.top ∧ later.current = fs.current ∧
            (∀ tree, later.node path = .ok tree → tree = .file content) ∧
            ((∀ target, ready.top.at? place = some (.link target) → place ∉ ready.trailAbove path) →
              later.read path = .ok content) := by
  have hmade := grown_of_makeDirectoriesIn host.toObstacles ((directoryOf path).length + 1) fs (directoryOf path)
  rw [← makeDirectoriesAgainst] at hmade
  rcases flushAgainst_cases hlawful w path fs with ⟨fault, herror⟩ | ⟨ready, place, hready, hentry, hok⟩
  · refine ⟨fun _ later h => ?_, fun _ later h => ?_⟩
    · obtain ⟨-, rfl⟩ := Prod.mk.inj (herror.symm.trans h)
      exact hmade
    · cases herror.symm.trans h
  · rw [hready] at hmade
    refine ⟨fun _ later h => ?_, fun summary later h => ?_⟩
    · cases hok.symm.trans h
    · obtain ⟨hsummary, rfl⟩ := Prod.mk.inj (hok.symm.trans h)
      obtain rfl : w.contents.summary = summary := Except.ok.inj hsummary
      have hwritten := written_setAt hentry w.contents.encode
      exact ⟨ready, place, w.contents.encode, hready, hentry, hwritten.entry, rfl,
        hmade.1.trans (hentry.grown _), hmade.2, hwritten.node, hwritten.read⟩

/-- An index of nothing that takes the place of an older file, and one in a new directory for which the disk has no
room. -/
theorem flushAgainst_atomic_full_disk :
    let fs : FileSystem := ⟨.directory [([105], .file [1, 2])], []⟩
    let full : SystemError := .refused 28 "No space left on device"
    let host : Host := { Host.usual with writeFile := fun _ _ _ => some (3, full) }
    (∃ later, (new {}).flushAgainst host [110, 47, 105] fs = (.error (.content full), later) ∧
        Grown [] fs.top later.top) ∧
      ∃ later content, (new {}).flushAgainst .usual [105] fs = (.ok ⟨0, 0, 76⟩, later) ∧
        later.read [105] = .ok content ∧ content.length = 76 := by
  intro fs full host
  have hfailed : ((new {}).flushAgainst host [110, 47, 105] fs).1 = .error (.content full) := by cbv
  have hdone : ((new {}).flushAgainst .usual [105] fs).1 = .ok ⟨0, 0, 76⟩ := by cbv
  have hlawful : host.temporaries.Lawful := TemporaryFiles.lawful_numbered
  obtain ⟨hgrown, -⟩ := (flushAgainst_atomic hlawful (new {}) [110, 47, 105] fs).1 _ _ (Prod.ext hfailed rfl)
  obtain ⟨ready, place, content, hready, hentry, -, hlength, -, -, -, hread⟩ :=
    (flushAgainst_atomic Host.lawful_usual (new {}) [105] fs).2 _ _
      (Prod.ext hdone rfl)
  refine ⟨⟨_, Prod.ext hfailed rfl, hgrown⟩, _, content, Prod.ext hdone rfl, hread ?_, hlength⟩
  -- the path leads to the older file, which is no link
  have hhere : fs.makeDirectoriesAgainst .none (directoryOf [105]) = (.ok (), fs) := by cbv
  have hthere : fs.resolve .entry [105] = .ok (.existing [[105]]) := by cbv
  obtain rfl : fs = ready := (Prod.mk.inj (hhere.symm.trans hready)).2
  obtain ⟨reached, hreached, rfl⟩ := hentry.reached
  obtain rfl : Place.existing [[105]] = reached := Except.ok.inj (hthere.symm.trans hreached)
  intro target htarget
  cases htarget

/-- The path of a link that comes through the link itself leads nowhere when the link has been replaced. -/
theorem flush_through_link :
    ¬ ∀ (w : Writer) (path : Path) (fs : FileSystem) summary later, w.flush path fs = (.ok summary, later) →
      ∃ names content, later.resolve .entry path = .ok (.existing names) ∧
        later.top.at? names = some (.file content) ∧ content.length = summary.bytes := by
  intro h
  -- a directory and a link to it; the path goes into the link and out again
  let fs : FileSystem := ⟨.directory [([100], .directory []), ([108], .link [100])], []⟩
  let path : Path := [108, 47, 46, 46, 47, 108]
  have hflush : ((new {}).flush path fs).1 = .ok ⟨0, 0, 76⟩ := by cbv
  have hlost : ((new {}).flush path fs).2.resolve .entry path = .error .notDirectory := by cbv
  obtain ⟨names, content, hresolve, -⟩ := h (new {}) path fs _ _ (Prod.ext hflush rfl)
  cases hlost.symm.trans hresolve

end TrigramGrep.Index.Writer
