import Mathlib
import TrigramGrep.Grep.Files
import TrigramGrep.Proofs.Grep.Hits
import TrigramGrep.Proofs.Index.Documents
import TrigramGrep.Proofs.Index.Execute
import TrigramGrep.Proofs.Pattern.Bounds
import TrigramGrep.Proofs.Query.Soundness
import TrigramGrep.Proofs.Regex.Layout

/-!
# The index is invisible in what is found

A search of the files that an index leaves prints the same and ends with the same answer as a search of all
files that are text.  The index only saves work: what it leaves out has no match.

## Shape of the proof

* Of the matcher it is asked that a match that it reports is a word of the language of the pattern
  (`Matcher.Reports`); such a match stands in the view.  So the query of the pattern holds of every view with a match,
  and where it does not hold, a search prints nothing (`Grep.search_of_holdsOf_eq_false`).
* The index is built from the same views.  What a reader gives for the query are the ids of the texts whose
  views the query holds of, in order (`Index.execute_texts`).
* Leaving out documents of which a search prints nothing does not change the findings.
-/

namespace TrigramGrep

/-! ## Matches -/

/-- Every match that is reported of a text is a word of a language. -/
def Matcher.Reports (find : Matcher) (L : Language UInt8) : Prop :=
  ∀ buffer position found, find buffer position = some found → Grep.bytesOf buffer found ∈ L

/-- The search of a pattern that can be read is such a matcher. -/
theorem Pattern.matcher_reports {ignoreCase : Bool} {text : String} {pattern : Pattern}
    (h : Pattern.ofText ignoreCase text = .ok pattern) :
    pattern.matcher.Reports pattern.regex.language := by
  intro buffer position found hfind
  rw [Pattern.matcher, pattern.program_eq] at hfind
  exact (Program.between_mem_language_of_find (Pattern.hasBounds_ofText h) hfind).2.2.2

namespace Grep

variable {find : Matcher} {options : Options} {r : Regex}

/-- A text in whose view no match is found has nothing to be printed. -/
theorem search_of_find_eq_none {maxLineLength : Nat} {content : Bytes}
    (h : find (View.view content maxLineLength).toArray 0 = none) (name : String) :
    search find options maxLineLength name content = ([], false) := by
  have hlines : foundLines find maxLineLength content = [] := by
    rw [foundLines, hits_of_find_eq_none h]
    rfl
  rw [search_eq, hlines]
  simp

/-- A text has nothing to be printed if the query of the expression does not hold of its view. -/
theorem search_of_holdsOf_eq_false (hfind : find.Reports r.language) (limits : Limits)
    {maxLineLength : Nat} {content : Bytes}
    (h : (Query.ofRegex limits r).holdsOf (View.view content maxLineLength) = false) (name : String) :
    search find options maxLineLength name content = ([], false) := by
  refine search_of_find_eq_none ?_ name
  cases hfound : find (View.view content maxLineLength).toArray 0 with
  | none => rfl
  | some found =>
    have hword := hfind _ _ _ hfound
    have hstands := Buffer.between_isInfix (View.view content maxLineLength).toArray found.start found.stop
    have := (Analysis.describes_atRoot limits r).condition _ hword _ hstands
    exact absurd (this.symm.trans h) (by decide)

/-! ## Findings -/

/-- Searches documents one after the other. -/
def searchDocuments (find : Matcher) (options : Options) (maxLineLength : Nat)
    (documents : List Document) : Findings :=
  (documents.map fun document =>
    searchContent find options maxLineLength document.name document.content).foldl Findings.append {}

/-- Documents of which a search prints nothing may be left out. -/
theorem searchDocuments_filter {maxLineLength : Nat} (keep : Document → Bool) (documents : List Document)
    (h : ∀ document, keep document = false →
      search find options maxLineLength document.name document.content = ([], false)) :
    searchDocuments find options maxLineLength (documents.filter keep) =
      searchDocuments find options maxLineLength documents := by
  unfold searchDocuments
  generalize ({} : Findings) = before
  induction documents generalizing before with
  | nil => rfl
  | cons document documents ih =>
    cases hkeep : keep document with
    | true =>
      rw [List.filter_cons_of_pos hkeep, List.map_cons, List.foldl_cons, ih, List.map_cons,
        List.foldl_cons]
    | false =>
      have hnothing : before.append
          (searchContent find options maxLineLength document.name document.content) = before := by
        simp [searchContent, h document hkeep, Findings.append]
      rw [List.filter_cons_of_neg (by simp [hkeep]), ih, List.map_cons, List.foldl_cons, hnothing]

end Grep

/-! ## Candidates -/

namespace Index

variable {config : Config} {texts : List Document}

/-- What a list of numbered texts tells of some ids. -/
theorem lookup_numberedFrom {id : FileId} {text : Document} (hfew : texts.length ≤ maxWord)
    (h : (id, text) ∈ numberedFrom 0 texts) : (numberedFrom 0 texts).lookup id = some text := by
  obtain ⟨before, behind, hsplit⟩ := List.append_of_mem h
  have hsorted := pairwise_numberedFrom_zero hfew
  rw [hsplit, List.pairwise_append] at hsorted
  refine List.lookup_eq_some_iff.mpr ⟨before, behind, hsplit, fun other hother => ?_⟩
  have hlt := hsorted.2.2 other hother (id, text) List.mem_cons_self
  simpa using (UInt32.ne_of_lt hlt).symm

/-- A query holds for the id of a text when it holds of the view. -/
theorem holdsFor_holders {id : FileId} {text : Document} (hfew : texts.length ≤ maxWord)
    (h : (id, text) ∈ numberedFrom 0 texts) (q : Query) :
    Reader.holdsFor (holders (texts.map (fileOf config))) id q =
      q.holdsOf (View.view text.content config.maxLineLength) := by
  rw [Reader.holdsFor, Query.holdsOf]
  congr 1
  funext t
  refine decide_eq_decide.mpr (mem_holders_texts.trans ⟨?_, fun ht => ⟨text, h, ht⟩⟩)
  rintro ⟨other, hother, ht⟩
  have := (lookup_numberedFrom hfew hother).symm.trans (lookup_numberedFrom hfew h)
  rwa [Option.some.inj this] at ht

/-- A reader of an index of texts gives the ids of those that a query holds of. -/
theorem execute_texts (hfit : Fit config [] (texts.map (fileOf config))) (path : Path) (q : Query) :
    ((Contents.ofFiles config [] (texts.map (fileOf config))).reader path).execute q =
      .ok (((numberedFrom 0 texts).filter fun entry =>
        q.holdsOf (View.view entry.2.content config.maxLineLength)).map Prod.fst) := by
  have hfew : texts.length ≤ maxWord := by simpa using hfit.few
  have hposting := hfit.posting_reader path
  have hcount := hfit.fileCount_reader path
  generalize (Contents.ofFiles config [] (texts.map (fileOf config))).reader path = r at hposting hcount
  rw [List.length_map] at hcount
  obtain ⟨ids, hids⟩ := Reader.execute_isOk q fun t _ => ⟨_, hposting t⟩
  -- every list can be read, so the lists that are read are the only way to complete them
  have hfiles : r.Completion (holders (texts.map (fileOf config))) :=
    { eq_of_posting := fun t found hfound => Except.ok.inj ((hposting t).symm.trans hfound)
      pairwise := fun t fault hfault => by rw [hposting t] at hfault; cases hfault
      lt_fileCount := fun t fault hfault => by rw [hposting t] at hfault; cases hfault }
  obtain ⟨hsorted, hmem⟩ := Reader.lists_execute hfiles q hids
  rw [hids]
  congr 1
  -- both lists ascend, so it is enough that they have the same members
  refine hsorted.eq_of_mem_iff (List.pairwise_map.mpr ((pairwise_numberedFrom_zero hfew).filter _))
    fun id => ?_
  rw [hmem, hcount, List.mem_map]
  constructor
  · rintro ⟨hid, hholds⟩
    have hentry : (id, texts[id.toNat]) ∈ numberedFrom 0 texts :=
      mem_numberedFrom_zero.mpr ⟨id.toNat, List.getElem?_eq_getElem hid, UInt32.ofNat_toNat⟩
    have hholds := (holdsFor_holders hfew hentry q).symm.trans hholds
    exact ⟨_, List.mem_filter.mpr ⟨hentry, hholds⟩, rfl⟩
  · rintro ⟨⟨id, text⟩, hentry, rfl⟩
    obtain ⟨hentry, hholds⟩ := List.mem_filter.mp hentry
    obtain ⟨number, htext, rfl⟩ := mem_numberedFrom_zero.mp hentry
    obtain ⟨hnumber, -⟩ := List.getElem?_eq_some_iff.mp htext
    refine ⟨?_, (holdsFor_holders hfew hentry q).trans hholds⟩
    dsimp only
    rw [UInt32.toNat_ofNat']
    exact Nat.lt_of_le_of_lt (Nat.mod_le _ _) hnumber

/-- The ids of some of the texts lead back to these texts. -/
theorem filterMap_lookup (hfew : texts.length ≤ maxWord) (keep : Document → Bool) :
    (((numberedFrom 0 texts).filter fun entry => keep entry.2).map Prod.fst).filterMap
      ((numberedFrom 0 texts).lookup ·) = texts.filter keep := by
  have hlookup : ∀ entry ∈ (numberedFrom 0 texts).filter fun entry => keep entry.2,
      (numberedFrom 0 texts).lookup entry.1 = some entry.2 :=
    fun entry hentry => lookup_numberedFrom hfew (List.mem_of_mem_filter hentry)
  have hkept := congrArg (List.filter keep) (map_snd_numberedFrom 0 texts)
  rw [List.filter_map] at hkept
  rw [List.filterMap_map, ← hkept]
  exact (List.filterMap_congr hlookup).trans (congrFun List.filterMap_eq_map' _)

/-! ## Searches -/

/-- A search of the candidates of an index of texts. -/
theorem searchDocuments_candidates {find : Matcher} {r : Regex} (hfind : find.Reports r.language)
    (limits : Limits) (options : Grep.Options) (hcut : config.maxLineLength ≤ maxWord)
    (hfew : texts.length ≤ maxWord) {w : Writer}
    (hholds : w.Holds config [] (texts.map (fileOf config)))
    (hsize : w.contents.encode.length < 2 ^ 63) (path : Path) :
    ∃ reader ids, Reader.ofBytes path w.contents.encode = .ok reader ∧ reader.data = w.contents.encode ∧
      reader.execute (Query.ofRegex limits r) = .ok ids ∧
      Grep.searchDocuments find options reader.maxLineLength
          (ids.filterMap ((numberedFrom 0 texts).lookup ·)) =
        Grep.searchDocuments find options config.maxLineLength texts := by
  rw [hholds.contents] at hsize ⊢
  -- an index of texts never has too many trigrams
  have hfit : Fit config [] (texts.map (fileOf config)) :=
    { few := by simpa using hfew
      rootCount := by simp
      trigrams := Nat.lt_of_le_of_lt (length_trigramsOf_texts _) (by decide)
      size := hsize }
  refine ⟨_, _, hfit.fits.ofBytes_encode path, rfl, execute_texts hfit path _, ?_⟩
  have hcandidates := filterMap_lookup hfew fun text =>
    (Query.ofRegex limits r).holdsOf (View.view text.content config.maxLineLength)
  rw [maxLineLength_reader, Nat.min_eq_left hcut, hcandidates]
  exact Grep.searchDocuments_filter _ _ fun text htext =>
    Grep.search_of_holdsOf_eq_false hfind limits htext text.name

end Index

/-- **The index is invisible.** Documents are all taken, as long as there are ids for the texts among them and the host
does not refuse to set pairs aside.  When they are, and the index of them has been written, it stands where its path
leads and can be opened; and for every matcher that reports words of an expression only, a search of the candidates that
the index leaves for this expression has the same findings as a search of all texts: what is printed and whether a line
matches.  (No file has `2 ^ 63` bytes or more, which is as far as the offsets of an index are good for.) -/
theorem searchDocuments_of_index {find : Matcher} {r : Regex} (hfind : find.Reports r.language) {host : Index.Host}
    (hlawful : host.temporaries.Lawful) (config : Index.Config) (limits : Limits) (options : Grep.Options)
    (documents : List Document) (hcut : config.maxLineLength ≤ Index.maxWord) :
    ((∀ files, host.spill files = none) →
        (documents.filter fun document => View.isText document.content).length ≤ Index.maxWord →
        ∃ taken w, (Index.Writer.new config).addDocuments host documents = (.ok taken, w)) ∧
      ∀ taken w, (Index.Writer.new config).addDocuments host documents = (.ok taken, w) →
        ∀ path fs summary flushed, w.contents.encode.length < 2 ^ 63 →
          w.flushAgainst host path fs = (.ok summary, flushed) →
          ∃ reader ids ready place,
            fs.makeDirectoriesAgainst host.toObstacles (Index.Writer.directoryOf path) = (.ok (), ready) ∧
              Index.Writer.Written ready flushed path place reader.data ∧
              ((∀ target, ready.top.at? place = some (.link target) → place ∉ ready.trailAbove path) →
                Index.Reader.openFile flushed path = .ok reader) ∧
              reader.execute (Query.ofRegex limits r) = .ok ids ∧
              Grep.searchDocuments find options reader.maxLineLength (ids.filterMap (taken.lookup ·)) =
                Grep.searchDocuments find options config.maxLineLength
                  (documents.filter fun document => View.isText document.content) := by
  have hadded := (Index.Writer.holds_new config).addDocuments (Nat.zero_le Index.maxWord) host documents
  rw [List.length_nil, Nat.zero_add] at hadded
  refine ⟨fun hspill hfew => ?_, fun taken w hadd path fs summary flushed hsize hflush => ?_⟩
  · rcases hadded with ⟨w, hadd, -⟩ | ⟨fault, w, -, ⟨-, hmany⟩ | ⟨count, refused, hrefused, -⟩⟩
    · exact ⟨_, w, hadd⟩
    · exact absurd hfew (Nat.not_le.mpr hmany)
    · cases (hspill count).symm.trans hrefused
  · rcases hadded with ⟨_, hok, hfew, hholds⟩ | ⟨fault, _, herror, -⟩
    · obtain ⟨htaken, rfl⟩ := Prod.mk.inj (hok.symm.trans hadd)
      obtain rfl := Except.ok.inj htaken
      obtain ⟨reader, ids, hread, hdata, hids, hsame⟩ :=
        Index.searchDocuments_candidates hfind limits options hcut hfew hholds hsize path
      obtain ⟨-, ready, place, hready, hwritten⟩ := Index.Writer.written_of_flushAgainst hlawful hflush
      exact ⟨reader, ids, ready, place, hready, hdata ▸ hwritten,
        fun hlink => (hwritten.openFile hlink).trans hread, hids, hsame⟩
    · cases herror.symm.trans hadd

set_option maxRecDepth 2000 in
/-- Two texts and a content that is none; each text is set aside as a run of its own. -/
theorem searchDocuments_of_index_two_texts :
    let config : Index.Config := { spillThreshold := 1 }
    let documents : List Document :=
      [⟨"a", [0]⟩, ⟨"b", [97, 98, 99, 10]⟩, ⟨"c", [97, 98, 10]⟩]
    let fs : FileSystem := { top := .empty, current := [] }
    ∃ pattern taken w flushed reader ids, Pattern.ofText false "abc" = .ok pattern ∧
      (Index.Writer.new config).addDocuments .usual documents = (.ok taken, w) ∧
      w.flush [105] fs = (.ok ⟨2, 3, 159⟩, flushed) ∧
      Index.Reader.openFile flushed [105] = .ok reader ∧
      reader.execute (Query.ofRegex {} pattern.regex) = .ok ids ∧
      Grep.searchDocuments pattern.matcher {} reader.maxLineLength (ids.filterMap (taken.lookup ·)) =
        Grep.searchDocuments pattern.matcher {} 1000
          [⟨"b", [97, 98, 99, 10]⟩, ⟨"c", [97, 98, 10]⟩] := by
  intro config documents fs
  have hpattern : (Pattern.ofText false "abc").isOk = true := by decide +kernel
  have hflushed : ((Index.Writer.new config).addDocuments .usual documents).2.contents.encode.length = 159 ∧
      (((Index.Writer.new config).addDocuments .usual documents).2.flush [105] fs).1 = .ok ⟨2, 3, 159⟩ := by cbv
  have htexts : (documents.filter fun document => View.isText document.content) =
      [⟨"b", [97, 98, 99, 10]⟩, ⟨"c", [97, 98, 10]⟩] := by cbv
  cases htext : Pattern.ofText false "abc" with
  | error refusal => rw [htext] at hpattern; cases hpattern
  | ok pattern =>
    obtain ⟨hall, hsearch⟩ := searchDocuments_of_index (Pattern.matcher_reports htext)
      Index.Host.lawful_usual config {} {} documents (by decide)
    obtain ⟨taken, w, hadd⟩ := hall (fun _ => rfl) (by rw [htexts]; decide)
    rw [hadd] at hflushed
    obtain ⟨hlength, hsummary⟩ := hflushed
    have hflush : w.flush [105] fs = (.ok ⟨2, 3, 159⟩, (w.flush [105] fs).2) := Prod.ext hsummary rfl
    obtain ⟨reader, ids, ready, place, hready, hwritten, hopen, hids, hsame⟩ :=
      hsearch taken w hadd [105] fs ⟨2, 3, 159⟩ _ (by rw [hlength]; decide) hflush
    rw [htexts] at hsame
    refine ⟨pattern, taken, w, _, reader, ids, rfl, hadd, hflush, hopen ?_, hids, hsame⟩
    -- there was nothing at the path
    have hmade : fs.makeDirectoriesAgainst .none (Index.Writer.directoryOf [105]) = (.ok (), fs) := by cbv
    have hthere : fs.resolve .entry [105] = .ok (.missing [] [105]) := by cbv
    obtain rfl : fs = ready := (Prod.mk.inj (hmade.symm.trans hready)).2
    refine hwritten.notMem_trailAbove hthere fun target htarget => ?_
    cases htarget

end TrigramGrep
