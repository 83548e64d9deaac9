import Mathlib
import TrigramGrep.Proofs.Index.Flush
import TrigramGrep.Proofs.Index.Operations
import TrigramGrep.Proofs.Index.ReadBack

/-!
# From a writer to a reader

Whatever calls a writer has had, the index that it writes tells a reader of the roots and the accepted files:
their names under the ids that the calls were answered with, and for every trigram just the files that were
handed over with it.

## Shape of the proof

The contents of a run of calls are those of its roots and files (`Writer.contents_afterAll`), and the postings
of files are the lists of their holders (`Contents.mem_postings_ofFiles`).  If counts and sizes fit the format,
all that can be read back (`Contents.Fits`).
-/

namespace TrigramGrep.Index

/-! ## Files and their trigrams -/

/-- The ids of the files that were handed over with a trigram, ascending. -/
def holders (files : List (String × List Trigram)) (t : Trigram) : Posting :=
  files.zipIdx.filterMap fun (file, number) => if t ∈ file.2 then some (UInt32.ofNat number) else none

/-- The trigrams of files, each once. -/
def trigramsOf (files : List (String × List Trigram)) : List Trigram :=
  (files.flatMap (·.2)).dedup

variable {files : List (String × List Trigram)} {t : Trigram} {id : FileId}

theorem mem_holders_iff :
    id ∈ holders files t ↔
      ∃ number file, files[number]? = some file ∧ t ∈ file.2 ∧ UInt32.ofNat number = id := by
  simp only [holders, List.mem_filterMap, Prod.exists, List.mk_mem_zipIdx_iff_getElem?,
    Option.ite_none_right_eq_some, Option.some.injEq]
  constructor
  · rintro ⟨name, trigrams, number, hfile, ht, hid⟩
    exact ⟨number, name, trigrams, hfile, ht, hid⟩
  · rintro ⟨number, name, trigrams, hfile, ht, hid⟩
    exact ⟨name, trigrams, number, hfile, ht, hid⟩

/-- The pairs of files are their trigrams with the ids of the holders. -/
theorem pack_mem_pairsOf : Pair.pack t id ∈ pairsOf files ↔ id ∈ holders files t := by
  rw [mem_holders_iff]
  simp only [pairsOf, List.mem_flatMap, Prod.exists, List.mk_mem_zipIdx_iff_getElem?, List.mem_map]
  constructor
  · rintro ⟨name, trigrams, number, hfile, other, hother, heq⟩
    have hunpacked := congrArg Pair.unpack heq
    rw [Pair.unpack_pack, Pair.unpack_pack, Prod.mk.injEq] at hunpacked
    obtain ⟨rfl, hid⟩ := hunpacked
    exact ⟨number, name, trigrams, hfile, hother, hid⟩
  · rintro ⟨number, name, trigrams, hfile, ht, rfl⟩
    exact ⟨name, trigrams, number, hfile, t, ht, rfl⟩

/-- As long as ids can tell members apart, those of later members are larger. -/
theorem pairwise_zipIdx {α : Type} {members : List α} (h : members.length ≤ maxWord) :
    members.zipIdx.Pairwise fun a b => UInt32.ofNat a.2 < UInt32.ofNat b.2 := by
  have hnumbers : members.zipIdx.Pairwise fun a b => a.2 < b.2 := by
    rw [← List.pairwise_map (f := Prod.snd) (R := fun m n : Nat => m < n), List.zipIdx_map_snd]
    exact List.pairwise_lt_range'
  refine hnumbers.imp_of_mem fun {a b} _ hb hlt => ?_
  have hb' : b.2 < UInt32.size := by
    have := List.snd_lt_of_mem_zipIdx hb
    simp only [maxWord, UInt32.size] at *
    omega
  rw [UInt32.lt_iff_toNat_lt, UInt32.toNat_ofNat_of_lt' (Nat.lt_trans hlt hb'),
    UInt32.toNat_ofNat_of_lt' hb']
  exact hlt

/-- So the holders of a trigram ascend. -/
theorem pairwise_holders (hfiles : files.length ≤ maxWord) (t : Trigram) :
    (holders files t).Pairwise (· < ·) := by
  refine List.pairwise_filterMap.mpr ((pairwise_zipIdx hfiles).imp fun {a b} hlt => ?_)
  intro id hid other hother
  obtain ⟨-, rfl⟩ := by simpa using hid
  obtain ⟨-, rfl⟩ := by simpa using hother
  exact hlt

theorem toNat_lt_of_mem_holders (hid : id ∈ holders files t) :
    id.toNat < files.length := by
  obtain ⟨number, file, hfile, -, rfl⟩ := mem_holders_iff.mp hid
  obtain ⟨hnumber, -⟩ := List.getElem?_eq_some_iff.mp hfile
  rw [UInt32.toNat_ofNat']
  exact Nat.lt_of_le_of_lt (Nat.mod_le _ _) hnumber

theorem mem_trigramsOf : t ∈ trigramsOf files ↔ ∃ id, id ∈ holders files t := by
  rw [trigramsOf, List.mem_dedup, List.mem_flatMap]
  constructor
  · rintro ⟨file, hfile, ht⟩
    obtain ⟨number, hnumber⟩ := List.mem_iff_getElem?.mp hfile
    exact ⟨_, mem_holders_iff.mpr ⟨number, file, hnumber, ht, rfl⟩⟩
  · rintro ⟨id, hid⟩
    obtain ⟨number, file, hfile, ht, -⟩ := mem_holders_iff.mp hid
    exact ⟨file, List.mem_of_getElem? hfile, ht⟩

namespace Contents

variable {config : Config} {roots : List String}

/-- The trigrams of the postings ascend. -/
theorem pairwise_postings_ofFiles :
    (ofFiles config roots files).postings.Pairwise fun entry later => entry.1 < later.1 :=
  Writer.pairwise_groupPairs (Run.pairwise_ofPairs _)

/-- The postings list for each trigram of the files its holders. -/
theorem mem_postings_ofFiles (hfiles : files.length ≤ maxWord) {ids : Posting} :
    (t, ids) ∈ (ofFiles config roots files).postings ↔ t ∈ trigramsOf files ∧ ids = holders files t := by
  have hsorted := Run.pairwise_ofPairs (pairsOf files)
  -- the list of an entry and the holders ascend and have the same members
  have hholders : ∀ {t : Trigram} {ids : Posting}, (t, ids) ∈ (ofFiles config roots files).postings →
      ids = holders files t := by
    intro t ids hentry
    refine (Writer.pairwise_posting hsorted hentry).eq_of_mem_iff (pairwise_holders hfiles t) fun id => ?_
    rw [Writer.mem_posting hsorted hentry, Run.mem_ofPairs, pack_mem_pairsOf]
  constructor
  · intro hentry
    obtain ⟨id, hid⟩ := List.exists_mem_of_ne_nil _ (Writer.posting_ne_nil hentry)
    exact ⟨mem_trigramsOf.mpr ⟨id, hholders hentry ▸ hid⟩, hholders hentry⟩
  · rintro ⟨ht, rfl⟩
    obtain ⟨id, hid⟩ := mem_trigramsOf.mp ht
    have hpair : Pair.pack t id ∈ Run.ofPairs (pairsOf files) :=
      Run.mem_ofPairs.mpr (pack_mem_pairsOf.mpr hid)
    obtain ⟨⟨other, ids⟩, hentry, heq, -⟩ := Writer.exists_mem_groupPairs hpair
    rw [Pair.unpack_pack] at heq
    obtain rfl : other = t := heq
    exact hholders hentry ▸ hentry

/-- There is one entry for each trigram of the files. -/
theorem length_postings_ofFiles (hfiles : files.length ≤ maxWord) :
    (ofFiles config roots files).postings.length = (trigramsOf files).length := by
  have hsorted : ((ofFiles config roots files).postings.map Prod.fst).Pairwise (· < ·) := by
    rw [List.pairwise_map]
    exact pairwise_postings_ofFiles
  have hnodup : ((ofFiles config roots files).postings.map Prod.fst).Nodup :=
    hsorted.imp fun hlt => UInt32.ne_of_lt hlt
  -- both lists have each trigram once
  have hperm : ((ofFiles config roots files).postings.map Prod.fst).Perm (trigramsOf files) := by
    refine (List.perm_ext_iff_of_nodup hnodup (List.nodup_dedup _)).mpr fun t => ?_
    rw [List.mem_map]
    constructor
    · rintro ⟨⟨t, ids⟩, hentry, rfl⟩
      exact ((mem_postings_ofFiles hfiles).mp hentry).1
    · intro ht
      exact ⟨(t, holders files t), (mem_postings_ofFiles hfiles).mpr ⟨ht, rfl⟩, rfl⟩
  rw [← hperm.length_eq, List.length_map]

/-- Files without too many ids, trigrams and bytes fit, whatever the roots are. -/
theorem fits_ofFiles (hfew : files.length ≤ maxWord) (htrigrams : (trigramsOf files).length < 2 ^ 32)
    (hsize : (ofFiles config roots files).encode.length < 2 ^ 63) : (ofFiles config roots files).Fits where
  fileCount := by
    simp only [ofFiles, List.length_map, maxWord, UInt32.size] at *
    omega
  trigramCount := by
    rw [length_postings_ofFiles hfew]
    exact htrigrams
  trigrams := pairwise_postings_ofFiles
  posting entry hentry := by
    rw [((mem_postings_ofFiles hfew).mp hentry).2]
    exact pairwise_holders hfew _
  file entry hentry id hid := by
    rw [((mem_postings_ofFiles hfew).mp hentry).2] at hid
    simpa [ofFiles] using toNat_lt_of_mem_holders hid
  size := hsize

end Contents

/-! ## The reader's side -/

/-- What a reader tells when it has read an index of roots and files. -/
structure Reader.Tells (r : Reader) (config : Config) (roots : List String)
    (files : List (String × List Trigram)) : Prop where
  fileCount : r.fileCount = files.length
  name : ∀ (id : FileId) (h : id.toNat < files.length), r.name id = .ok files[id.toNat].1
  noName : ∀ id : FileId, files.length ≤ id.toNat → ∃ fault, r.name id = .error fault
  roots_eq : r.roots = .ok roots
  posting : ∀ t, r.posting t = .ok (holders files t)
  trigramCount : r.trailer.trigramCount.toNat = (trigramsOf files).length
  maxLineLength : r.maxLineLength = min config.maxLineLength maxWord

/-- What can be told of roots and files in the format. -/
structure Fit (config : Config) (roots : List String) (files : List (String × List Trigram)) : Prop where
  few : files.length ≤ maxWord
  rootCount : roots.length < 2 ^ 32
  trigrams : (trigramsOf files).length < 2 ^ 32
  size : (Contents.ofFiles config roots files).encode.length < 2 ^ 63

/-- The line cut is kept as far as a number of 32 bits goes. -/
theorem maxLineLength_reader {config : Config} {roots : List String} (path : Path) :
    ((Contents.ofFiles config roots files).reader path).maxLineLength =
      min config.maxLineLength maxWord := by
  have hword : min config.maxLineLength maxWord < UInt32.size := by
    have := Nat.min_le_right config.maxLineLength maxWord
    simp only [maxWord, UInt32.size] at *
    omega
  exact UInt32.toNat_ofNat_of_lt' hword

namespace Fit

variable {config : Config} {roots : List String}

theorem fits (h : Fit config roots files) : (Contents.ofFiles config roots files).Fits :=
  Contents.fits_ofFiles h.few h.trigrams h.size

/-- The reader of an index of files counts them. -/
theorem fileCount_reader (h : Fit config roots files) (path : Path) :
    ((Contents.ofFiles config roots files).reader path).fileCount = files.length :=
  h.fits.toNat_fileCount.trans (by simp [Contents.ofFiles])

/-- It finds the holders of every trigram. -/
theorem posting_reader (h : Fit config roots files) (path : Path) (t : Trigram) :
    ((Contents.ofFiles config roots files).reader path).posting t = .ok (holders files t) := by
  by_cases ht : t ∈ trigramsOf files
  · exact h.fits.posting_reader path ((Contents.mem_postings_ofFiles h.few).mpr ⟨ht, rfl⟩)
  · rw [h.fits.posting_reader_of_not_mem path]
    · rw [List.eq_nil_iff_forall_not_mem.mpr fun id hid => ht (mem_trigramsOf.mpr ⟨id, hid⟩)]
    · rw [List.mem_map]
      rintro ⟨⟨t, ids⟩, hentry, rfl⟩
      exact ht ((Contents.mem_postings_ofFiles h.few).mp hentry).1

/-- The reader of an index of roots and files tells of them. -/
theorem tells_reader (h : Fit config roots files)
    (hroots : ∀ root ∈ roots, (Bytes.ofString root).length < 2 ^ 32)
    (hnames : ∀ file ∈ files, (Bytes.ofString file.1).length < 2 ^ 32) (path : Path) :
    ((Contents.ofFiles config roots files).reader path).Tells config roots files where
  fileCount := h.fileCount_reader path
  name id hid := by
    have hname : (Contents.ofFiles config roots files).names[id.toNat]? = some files[id.toNat].1 := by
      simp [Contents.ofFiles, hid]
    obtain ⟨hlength, hname⟩ := List.getElem?_eq_some_iff.mp hname
    rw [h.fits.name_reader path hlength (hname ▸ hnames _ (List.getElem_mem hid)), hname]
  noName id hid :=
    ⟨_, h.fits.name_reader_of_le path (by simpa [Contents.ofFiles] using hid)⟩
  roots_eq := h.fits.roots_reader path h.rootCount hroots
  posting := h.posting_reader path
  trigramCount := h.fits.toNat_trigramCount.trans (Contents.length_postings_ofFiles h.few)
  maxLineLength := maxLineLength_reader path

end Fit

namespace Writer

/-- **Round trip.** After any calls whose names, roots and counts fit the format, a flush puts an index where its path
leads that can be opened, and its reader tells of the roots and of the files that were accepted.  Each call has been
answered with the id of its file, if it brought one and there was one left; only a host that refuses to set pairs
aside may be heard of instead.

Of the host nothing is asked but that its temporary files are what is relied on.  A path that runs through the very
link that the index replaces leads nowhere afterwards; every other path opens the index. -/
theorem flush_roundTrip {host : Host} (hlawful : host.temporaries.Lawful) (config : Config) (calls : List Operation)
    {path : Path} {fs flushed : FileSystem} {summary : Summary}
    (hroots : ∀ root ∈ Operation.rootsOf calls, (Bytes.ofString root).length < 2 ^ 32)
    (hnames : ∀ file ∈ Operation.acceptedOf config calls, (Bytes.ofString file.1).length < 2 ^ 32)
    (hrootCount : (Operation.rootsOf calls).length < 2 ^ 32)
    (htrigrams : (trigramsOf (Operation.acceptedOf config calls)).length < 2 ^ 32)
    (hsize : ((new config).afterAll host calls).contents.encode.length < 2 ^ 63)
    (hflush : ((new config).afterAll host calls).flushAgainst host path fs = (.ok summary, flushed)) :
    (∀ before call rest, calls = before ++ call :: rest →
        Operation.Answers host config before call (((new config).afterAll host before).perform host call).1) ∧
      ∃ r ready place,
        fs.makeDirectoriesAgainst host.toObstacles (directoryOf path) = (.ok (), ready) ∧
          Written ready flushed path place r.data ∧
          ((∀ target, ready.top.at? place = some (.link target) → place ∉ ready.trailAbove path) →
            Reader.openFile flushed path = .ok r) ∧
          Reader.ofBytes path r.data = .ok r ∧
          r.Tells config (Operation.rootsOf calls) (Operation.acceptedOf config calls) ∧
          summary = { files := r.fileCount, trigrams := r.trailer.trigramCount.toNat,
                      bytes := r.data.length } := by
  refine ⟨fun before call _ _ => perform_afterAll host config before call, ?_⟩
  obtain ⟨rfl, ready, place, hready, hwritten⟩ := written_of_flushAgainst hlawful hflush
  have hopened := hwritten.openFile
  rw [contents_afterAll] at hsize hwritten hopened ⊢
  have hfit : Fit config (Operation.rootsOf calls) (Operation.acceptedOf config calls) :=
    { few := List.length_take_le .., rootCount := hrootCount, trigrams := htrigrams, size := hsize }
  have hread := hfit.fits.ofBytes_encode path
  exact ⟨_, ready, place, hready, hwritten, fun hlink => (hopened hlink).trans hread, hread,
    hfit.tells_reader hroots hnames path, rfl⟩

set_option maxRecDepth 2000 in
/-- Two files, one of them with a trigram twice, a content that is no text, and a root, in a directory that is not
there yet; the threshold is passed on the way. -/
theorem flush_roundTrip_two_files :
    let config : Config := { spillThreshold := 2 }
    let calls : List Operation :=
      [.addTrigrams "a" [5, 3, 5], .addRoots ["r"], .addContent "b" [0], .addTrigrams "c" [3]]
    let fs : FileSystem := { top := .empty, current := [] }
    ∃ flushed r, ((new config).afterAll .usual calls).flush [100, 47, 105] fs = (.ok ⟨2, 2, 141⟩, flushed) ∧
      Reader.openFile flushed [100, 47, 105] = .ok r ∧ r.Tells config ["r"] [("a", [5, 3, 5]), ("c", [3])] := by
  intro config calls fs
  have hsummary : (((new config).afterAll .usual calls).flush [100, 47, 105] fs).1 = .ok ⟨2, 2, 141⟩ := by cbv
  have hroots : Operation.rootsOf calls = ["r"] := by cbv
  have hfiles : Operation.acceptedOf config calls = [("a", [5, 3, 5]), ("c", [3])] := by cbv
  have hshort : ∀ text ∈ ["r", "a", "c"], (Bytes.ofString text).length < 2 ^ 32 := by
    rintro text htext
    simp only [List.mem_cons, List.not_mem_nil, or_false] at htext
    rcases htext with rfl | rfl | rfl <;> cbv
  have hflush : ((new config).afterAll .usual calls).flush [100, 47, 105] fs =
      (.ok ⟨2, 2, 141⟩, (((new config).afterAll .usual calls).flush [100, 47, 105] fs).2) := Prod.ext hsummary rfl
  obtain ⟨-, r, ready, place, hready, hwritten, hopen, -, htells, -⟩ :=
    flush_roundTrip Host.lawful_usual config calls
      (hroots ▸ fun root hroot => hshort root (List.mem_append_left ["a", "c"] hroot))
      (hfiles ▸ fun file hfile => hshort file.1 (List.mem_cons_of_mem "r" (List.mem_map_of_mem hfile)))
      (by rw [hroots]; decide)
      (by rw [hfiles]; decide) (by cbv) hflush
  rw [hroots, hfiles] at htells
  refine ⟨_, r, hflush, hopen ?_, htells⟩
  -- the directory is there now, and nothing in it
  let made : FileSystem := ⟨.directory [([100], .directory [])], []⟩
  have hmade : fs.makeDirectoriesAgainst .none (directoryOf [100, 47, 105]) = (.ok (), made) := by cbv
  have hthere : made.resolve .entry [100, 47, 105] = .ok (.missing [[100]] [105]) := by cbv
  obtain rfl : made = ready := (Prod.mk.inj (hmade.symm.trans hready)).2
  refine hwritten.notMem_trailAbove hthere fun target htarget => ?_
  cases htarget

end Writer

end TrigramGrep.Index
