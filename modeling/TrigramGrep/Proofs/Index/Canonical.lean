import Mathlib
import TrigramGrep.Proofs.Index.Flush
import TrigramGrep.Proofs.Index.Operations

/-!
# One file for everything that an index says

The bytes of an index are a function of what it says: the roots, the names of the accepted files, the set of
trigrams of each file, and the line cut as far as the format can tell it.  How a writer got there leaves no
trace: not the threshold at which pairs are set aside, nor the limit on the size of files, nor the order in
which the trigrams of a file came and how often, nor the calls that brought no file.

## Shape of the proof

The contents after a run of calls are those of the accepted files (`Writer.contents_afterAll`), and their
postings are collected from a run, that is, from a strictly ascending list of pairs.  Such a list is known by
its members, so files with the same sets of trigrams have the same postings (`SameFiles.postings_eq`).  The
line cut is the one part of the contents that may differ, and the trailer sees no more of it than fits into 32
bits (`Contents.encode_congr`).
-/

namespace TrigramGrep.Index

/-! ## Files that an index does not tell apart -/

/-- The same names in the same order, and file by file the same set of trigrams. -/
structure SameFiles (files others : List (String × List Trigram)) : Prop where
  names : files.map (·.1) = others.map (·.1)
  trigrams : ∀ (number : Nat) (file other : String × List Trigram), files[number]? = some file →
    others[number]? = some other → ∀ t, t ∈ file.2 ↔ t ∈ other.2

namespace SameFiles

variable {files others : List (String × List Trigram)}

theorem symm (h : SameFiles files others) : SameFiles others files where
  names := h.names.symm
  trigrams number file other hfile hother t := (h.trigrams number other file hother hfile t).symm

/-- Where the one list has a file, the other one has a file, too. -/
theorem exists_getElem? (h : SameFiles files others) {number : Nat} {file : String × List Trigram}
    (hfile : files[number]? = some file) : ∃ other, others[number]? = some other := by
  have hlength : files.length = others.length := by simpa using congrArg List.length h.names
  obtain ⟨hnumber, -⟩ := List.getElem?_eq_some_iff.mp hfile
  exact ⟨_, List.getElem?_eq_getElem (hlength ▸ hnumber)⟩

theorem mem_pairsOf (h : SameFiles files others) {p : Pair} (hp : p ∈ pairsOf files) :
    p ∈ pairsOf others := by
  simp only [pairsOf, List.mem_flatMap, Prod.exists, List.mk_mem_zipIdx_iff_getElem?, List.mem_map] at hp ⊢
  obtain ⟨name, trigrams, number, hfile, t, ht, rfl⟩ := hp
  obtain ⟨other, hother⟩ := h.exists_getElem? hfile
  exact ⟨other.1, other.2, number, hother, t, (h.trigrams number _ other hfile hother t).mp ht, rfl⟩

/-- Both give the same postings: the run of their pairs ascends strictly, so it is known by its members. -/
theorem postings_eq (h : SameFiles files others) :
    Writer.groupPairs (Run.ofPairs (pairsOf files)) = Writer.groupPairs (Run.ofPairs (pairsOf others)) := by
  congr 1
  refine (Run.pairwise_ofPairs _).eq_of_mem_iff (Run.pairwise_ofPairs _) fun p => ?_
  rw [Run.mem_ofPairs, Run.mem_ofPairs]
  exact ⟨h.mem_pairsOf, h.symm.mem_pairsOf⟩

end SameFiles

/-! ## Contents that have the same bytes -/

namespace Contents

variable {c d : Contents}

/-- The bytes of an index and what is told of them depend on the line cut only as far as it fits into a
number of the format. -/
theorem encode_congr (hroots : c.roots = d.roots) (hnames : c.names = d.names)
    (hpostings : c.postings = d.postings)
    (hcut : min c.maxLineLength maxWord = min d.maxLineLength maxWord) :
    c.encode = d.encode ∧ c.summary = d.summary := by
  obtain ⟨roots, names, postings, cut⟩ := c
  obtain ⟨_, _, _, other⟩ := d
  dsimp only at hroots hnames hpostings hcut
  subst hroots hnames hpostings
  have htrailer : trailer ⟨roots, names, postings, cut⟩ = trailer ⟨roots, names, postings, other⟩ := by
    rw [trailer, hcut]
    rfl
  have hencode : encode ⟨roots, names, postings, cut⟩ = encode ⟨roots, names, postings, other⟩ := by
    rw [encode, htrailer]
    rfl
  refine ⟨hencode, ?_⟩
  rw [summary, htrailer, hencode]
  rfl

end Contents

/-! ## Writing -/

namespace Writer

/-- A writer meets a file system and a host whose runs can be read with nothing but the bytes of the index. -/
theorem flushAgainst_congr {w v : Writer} (hencode : w.contents.encode = v.contents.encode)
    (hsummary : w.contents.summary = v.contents.summary) {host : Host} (hruns : host.readRuns = none)
    (path : Path) (fs : FileSystem) : w.flushAgainst host path fs = v.flushAgainst host path fs := by
  have hbreaks : w.breaksOff host = v.breaksOff host := by
    funext bytes fs temporary
    rw [breaksOff, breaksOff, hruns, ite_self, ite_self]
  unfold flushAgainst
  dsimp only
  rw [hencode, hsummary, hbreaks]

/-- Wherever a writer succeeds on a host, it tells the same, and the entry that its path leads to is a file of the same
bytes. -/
def Leaves (w : Writer) (host : Host) (summary : Summary) (bytes : Bytes) : Prop :=
  ∀ path fs told flushed, w.flushAgainst host path fs = (.ok told, flushed) →
    told = summary ∧ ∃ ready place,
      fs.makeDirectoriesAgainst host.toObstacles (directoryOf path) = (.ok (), ready) ∧
        Written ready flushed path place bytes

/-- These are the bytes of what it says. -/
theorem leaves_encode {host : Host} (hlawful : host.temporaries.Lawful) (w : Writer) :
    w.Leaves host w.contents.summary w.contents.encode :=
  fun _ _ _ _ h => written_of_flushAgainst hlawful h

/-- **Canonical bytes.** Two runs of calls that end with the same roots, the same accepted names, the same set
of trigrams for each id and the same line cut, as far as it fits into 32 bits, write the same index, whatever the hosts
have refused on the way.

On one file system, and on a host that can read the runs back, they do the same.  And there is one sequence of bytes
such that, wherever either of them succeeds, the entry that its path leads to is a file of these bytes, and the summary
is that of this file. -/
theorem flush_canonical {host host' : Host} (hlawful : host.temporaries.Lawful) (hlawful' : host'.temporaries.Lawful)
    (config config' : Config) (calls calls' : List Operation)
    (hroots : Operation.rootsOf calls = Operation.rootsOf calls')
    (hfiles : SameFiles (Operation.acceptedOf config calls) (Operation.acceptedOf config' calls'))
    (hcut : min config.maxLineLength maxWord = min config'.maxLineLength maxWord) :
    (∀ machine : Host, machine.readRuns = none → ∀ path fs,
        ((new config).afterAll host calls).flushAgainst machine path fs =
          ((new config').afterAll host' calls').flushAgainst machine path fs) ∧
      ∃ summary bytes, summary.bytes = bytes.length ∧
        ((new config).afterAll host calls).Leaves host summary bytes ∧
        ((new config').afterAll host' calls').Leaves host' summary bytes := by
  obtain ⟨hencode, hsummary⟩ : ((new config).afterAll host calls).contents.encode =
        ((new config').afterAll host' calls').contents.encode ∧
      ((new config).afterAll host calls).contents.summary =
        ((new config').afterAll host' calls').contents.summary := by
    rw [contents_afterAll, contents_afterAll]
    exact Contents.encode_congr hroots hfiles.names hfiles.postings_eq hcut
  refine ⟨fun machine hruns => flushAgainst_congr hencode hsummary hruns, _, _, rfl, leaves_encode hlawful _, ?_⟩
  rw [hencode, hsummary]
  exact leaves_encode hlawful' _

set_option maxRecDepth 2000 in
/-- Thresholds zero and two, trigrams in another order and repeated, the root given at another time, and calls
that bring no file: a content that is no text, a stream that breaks off, and a missing file.  The one index takes the
place of an older file, the other one is written to a new directory. -/
theorem flush_canonical_two_runs :
    let config : Config := { spillThreshold := 0 }
    let config' : Config := { spillThreshold := 2, maxFileSize := 0 }
    let fs : FileSystem := ⟨.directory [([105], .file [1, 2])], []⟩
    let calls : List Operation :=
      [.addTrigrams "a" [5, 3, 5], .addRoots ["r"], .addContent "b" [0], .addTrigrams "c" [3]]
    let calls' : List Operation :=
      [.addRoots ["r"], .addFile fs [120], .addTrigrams "a" [3, 5],
        .addStream "s" ⟨[97, 98, 99], some "broken"⟩, .addTrigrams "c" [3, 3]]
    ∃ flushed flushed' bytes,
      ((new config).afterAll .usual calls).flush [105] fs = (.ok ⟨2, 2, 141⟩, flushed) ∧
      ((new config').afterAll .usual calls').flush [100, 47, 105] fs = (.ok ⟨2, 2, 141⟩, flushed') ∧
      bytes.length = 141 ∧ flushed.read [105] = .ok bytes ∧ flushed'.read [100, 47, 105] = .ok bytes := by
  intro config config' fs calls calls'
  have hfiles : Operation.acceptedOf config calls = [("a", [5, 3, 5]), ("c", [3])] := by cbv
  have hfiles' : Operation.acceptedOf config' calls' = [("a", [3, 5]), ("c", [3, 3])] := by cbv
  have hsame : SameFiles (Operation.acceptedOf config calls) (Operation.acceptedOf config' calls') := by
    rw [hfiles, hfiles']
    refine ⟨rfl, fun number file other hfile hother t => ?_⟩
    rcases number with _ | _ | number
    · cases hfile
      cases hother
      simp only [List.mem_cons]
      grind
    · cases hfile
      cases hother
      simp
    · cases hfile
  have hflush : (((new config).afterAll .usual calls).flush [105] fs).1 = .ok ⟨2, 2, 141⟩ := by cbv
  have hflush' : (((new config').afterAll .usual calls').flush [100, 47, 105] fs).1 = .ok ⟨2, 2, 141⟩ := by cbv
  obtain ⟨-, summary, bytes, hbytes, hleaves, hleaves'⟩ := flush_canonical Host.lawful_usual
    Host.lawful_usual config config' calls calls' rfl hsame rfl
  obtain ⟨rfl, ready, place, hready, hwritten⟩ := hleaves _ _ _ _ (Prod.ext hflush rfl)
  obtain ⟨-, ready', place', hready', hwritten'⟩ := hleaves' _ _ _ _ (Prod.ext hflush' rfl)
  refine ⟨_, _, bytes, Prod.ext hflush rfl, Prod.ext hflush' rfl, hbytes.symm, hwritten.read ?_, hwritten'.read ?_⟩
  · -- the older file is no link
    have hmade : fs.makeDirectoriesAgainst .none (directoryOf [105]) = (.ok (), fs) := by cbv
    have hthere : fs.resolve .entry [105] = .ok (.existing [[105]]) := by cbv
    obtain rfl : fs = ready := (Prod.mk.inj (hmade.symm.trans hready)).2
    refine hwritten.notMem_trailAbove hthere fun target htarget => ?_
    cases htarget
  · -- nothing is in the new directory
    let made : FileSystem := ⟨.directory [([105], .file [1, 2]), ([100], .directory [])], []⟩
    have hmade : fs.makeDirectoriesAgainst .none (directoryOf [100, 47, 105]) = (.ok (), made) := by cbv
    have hthere : made.resolve .entry [100, 47, 105] = .ok (.missing [[100]] [105]) := by cbv
    obtain rfl : made = ready' := (Prod.mk.inj (hmade.symm.trans hready')).2
    refine hwritten'.notMem_trailAbove hthere fun target htarget => ?_
    cases htarget

end Writer

end TrigramGrep.Index
