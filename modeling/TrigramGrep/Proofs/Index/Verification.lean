import TrigramGrep.Proofs.FileSystem.Growth
import TrigramGrep.Proofs.Index.Batches
import TrigramGrep.Proofs.Index.Documents

/-!
# From an index back to the files

A search opens the files of an index again by their names.  The name of a file is the text of its path, so a path
that is valid UTF-8 comes back as it was, and the file is found with the bytes that were scanned.  Any other path
comes back with replacement characters and leads elsewhere.

Writing the index changes one entry.  Files whose paths visit this entry, because they are the older index or because
they are found through a link that the index replaces, are not there any more; all others are.
-/

namespace TrigramGrep.Index

open FileSystem

/-- Those of the files that get an id, in their order. -/
def scannedFiles (fs : FileSystem) (config : Config) (files : List Path) : List Path :=
  files.filter fun path => (fileAt? fs config path).isSome

/-- What the index of files under roots says. -/
def contentsOfRoots (fs : FileSystem) (config : Config) (roots files : List Path) : Contents :=
  Contents.ofFiles config (roots.map Path.display) (indexedFiles fs config files)

variable {host : Host} {fs : FileSystem} {config : Config} {roots files : List Path} {file : Path}

/-! ## What a scan has seen -/

/-- A file that gets an id can be read, is not too large and is text. -/
theorem exists_content_of_fileAt? {entry : String × List Trigram} (h : fileAt? fs config file = some entry) :
    ∃ content, smallContent? fs config file = some content ∧ fs.read file = .ok content ∧
      View.isText content = true ∧
      entry = (file.display, Trigram.windows (View.view content config.maxLineLength)) := by
  obtain ⟨content, hcontent, htext⟩ := Option.bind_eq_some_iff.mp h
  refine ⟨content, hcontent, ?_, ?_⟩
  · unfold smallContent? at hcontent
    split at hcontent
    · next hsize hread =>
      split at hcontent
      · rw [hread, Option.some.inj hcontent]
      · cases hcontent
    · cases hcontent
  · unfold textFile? at htext
    split at htext
    · next htrue => exact ⟨htrue, (Option.some.inj htext).symm⟩
    · cases htext

/-- The files that get an id go by the texts of their paths. -/
theorem map_fst_indexedFiles (fs : FileSystem) (config : Config) (files : List Path) :
    (indexedFiles fs config files).map Prod.fst = (scannedFiles fs config files).map Path.display := by
  rw [indexedFiles, scannedFiles, List.map_filterMap, ← List.filterMap_eq_map, List.filterMap_filter]
  refine List.filterMap_congr fun path _ => ?_
  cases hfile : fileAt? fs config path with
  | none => simp
  | some entry =>
    obtain ⟨content, -, -, -, rfl⟩ := exists_content_of_fileAt? hfile
    simp

/-- They have few enough trigrams for the format. -/
theorem length_trigramsOf_indexedFiles (fs : FileSystem) (config : Config) (files : List Path) :
    (trigramsOf (indexedFiles fs config files)).length ≤ 2 ^ 24 := by
  refine length_trigramsOf_le fun entry hentry => ?_
  obtain ⟨path, -, hpath⟩ := List.mem_filterMap.mp hentry
  obtain ⟨content, -, -, -, rfl⟩ := exists_content_of_fileAt? hpath
  exact ⟨View.view content config.maxLineLength, fun _ ht => ht⟩

/-- A path that can be read is short, and so is its text. -/
theorem length_display_lt {content : Bytes} (h : fs.read file = .ok content) :
    (Bytes.ofString file.display).length < 2 ^ 32 := by
  obtain ⟨names, node, hresolve, -⟩ := exists_node_of_read h
  have hshort := (resolve_eq_ok_iff.mp hresolve).1.short
  have hbytes := Text.Utf8.length_ofString_lossy_le file
  rw [maxPathLength] at hshort
  rw [Path.display]
  omega

/-! ## Builds -/

/-- What a build that succeeds leaves behind: the index of the files under its roots in the place that its path led
to, and beside it at most new directories. -/
theorem exists_entry_of_build (hlawful : host.temporaries.Lawful) {batchSize : Nat} {path : Path} {summary : Summary}
    (hfiles : collectFiles fs roots host.walk = files)
    (hbuild : (build batchSize config path roots fs host).result = .ok summary) :
    (indexedFiles fs config files).length ≤ maxWord ∧
      summary = (contentsOfRoots fs config roots files).summary ∧
      ∃ ready place, fs.makeDirectoriesAgainst host.toObstacles (Writer.directoryOf path) = (.ok (), ready) ∧
        LeadsToEntry ready path place ∧
        (build batchSize config path roots fs host).files =
          ready.setAt place (some (.file (contentsOfRoots fs config roots files).encode)) := by
  have hinOrder := result_and_files_build batchSize host config path roots fs
  rw [hbuild, buildInOrder, hfiles] at hinOrder
  rcases contents_of_addFiles host config (roots.map Path.display) fs files with
    ⟨ids, w, hok, hfew, -, -, hcontents⟩ | ⟨fault, w, herror, -⟩
  · rw [hok] at hinOrder
    rcases Writer.flushAgainst_cases hlawful w path fs with ⟨fault, herror⟩ | ⟨ready, place, hready, hentry, hflush⟩
    · cases (Prod.mk.inj (hinOrder.trans herror)).1
    · obtain ⟨hsummary, hlater⟩ := Prod.mk.inj (hinOrder.trans hflush)
      rw [hcontents] at hsummary hlater
      exact ⟨hfew, Except.ok.inj hsummary, ready, place, hready, hentry, hlater⟩
  · rw [herror] at hinOrder
    cases (Prod.mk.inj hinOrder).1

/-- The index of scanned files fits the format, unless it has too many bytes. -/
theorem fits_contentsOfRoots (hfew : (indexedFiles fs config files).length ≤ maxWord)
    (hsize : (contentsOfRoots fs config roots files).encode.length < 2 ^ 63) :
    (contentsOfRoots fs config roots files).Fits :=
  Contents.fits_ofFiles hfew
    (Nat.lt_of_le_of_lt (length_trigramsOf_indexedFiles fs config files) (by decide)) hsize

/-- A file whose path does not visit the entry of the index is still there when the index has been written. -/
theorem read_setAt_of_makeDirectories {ready : FileSystem} {path : Path} {place : List Bytes}
    {bytes content : Bytes}
    (hready : fs.makeDirectoriesAgainst host.toObstacles (Writer.directoryOf path) = (.ok (), ready))
    (hentry : LeadsToEntry ready path place) (hread : fs.read file = .ok content)
    (hplace : place ∉ fs.trailOf file) :
    (ready.setAt place (some (.file bytes))).read file = .ok content := by
  obtain ⟨hgrown, hcurrent⟩ := grown_of_makeDirectoriesIn host.toObstacles ((Writer.directoryOf path).length + 1)
    fs (Writer.directoryOf path)
  rw [← makeDirectoriesAgainst, hready] at hgrown hcurrent
  obtain ⟨hread, htrail⟩ := hgrown.read_eq_ok hcurrent hread
  exact (hentry.patched bytes).read_eq_ok rfl hread (htrail ▸ hplace)

/-- **Indexed files can be opened again.**  When a build has succeeded, its index stands where its path leads, can be
read and has a name for each file that the scan has taken, in the order in which the files were found.  If the path of
a file is valid UTF-8, then its name leads to the bytes that were scanned: in the files as they were, and also when the
index has been written, unless the path visits the entry that the index has taken. -/
theorem build_reopens {host : Host} (hlawful : host.temporaries.Lawful) (batchSize : Nat) (config : Config)
    (path : Path) (roots : List Path) (fs : FileSystem) {summary : Summary}
    (hbuild : (build batchSize config path roots fs host).result = .ok summary)
    (hsize : summary.bytes < 2 ^ 63) :
    let later := (build batchSize config path roots fs host).files
    let scanned := scannedFiles fs config (collectFiles fs roots host.walk)
    ∃ ready place r,
      fs.makeDirectoriesAgainst host.toObstacles (Writer.directoryOf path) = (.ok (), ready) ∧
        Writer.Written ready later path place r.data ∧ Reader.ofBytes path r.data = .ok r ∧
        ((∀ target, ready.top.at? place = some (.link target) → place ∉ ready.trailAbove path) →
          Reader.openFile later path = .ok r) ∧
        r.fileCount = scanned.length ∧
        ∀ id : FileId, id.toNat < r.fileCount →
          ∃ file content, scanned[id.toNat]? = some file ∧ r.name id = .ok file.display ∧
            smallContent? fs config file = some content ∧ View.isText content = true ∧
            (Text.Utf8.isValid file = true →
              fs.read (Path.ofString file.display) = .ok content ∧
                (place ∉ fs.trailOf file → later.read (Path.ofString file.display) = .ok content)) := by
  intro later scanned
  obtain ⟨hfew, rfl, ready, place, hready, hentry, hlater⟩ := exists_entry_of_build hlawful rfl hbuild
  change later = _ at hlater
  have hfits := fits_contentsOfRoots hfew hsize
  have hnames : (contentsOfRoots fs config roots (collectFiles fs roots host.walk)).names =
      scanned.map Path.display := map_fst_indexedFiles fs config _
  generalize contentsOfRoots fs config roots (collectFiles fs roots host.walk) = contents at hlater hfits hnames
  have hcount : (contents.reader path).fileCount = scanned.length := by
    rw [Reader.fileCount, ← List.length_map Path.display, ← hnames]
    exact hfits.toNat_fileCount
  have hopened := hfits.ofBytes_encode path
  have hwritten : Writer.Written ready later path place contents.encode := hlater ▸ Writer.written_setAt hentry _
  refine ⟨ready, place, _, hready, hwritten, hopened, fun hlink => (hwritten.openFile hlink).trans hopened, hcount,
    fun id hid => ?_⟩
  rw [hcount] at hid
  have hfile : scanned[id.toNat]? = some scanned[id.toNat] := List.getElem?_eq_getElem hid
  generalize scanned[id.toNat] = file at hfile
  obtain ⟨entry, htaken⟩ := Option.isSome_iff_exists.mp (List.mem_filter.mp (List.mem_of_getElem? hfile)).2
  obtain ⟨content, hcontent, hread, htext, -⟩ := exists_content_of_fileAt? htaken
  have hname : contents.names[id.toNat]? = some file.display := by
    rw [hnames, List.getElem?_map, hfile]
    rfl
  obtain ⟨hlength, hname⟩ := List.getElem?_eq_some_iff.mp hname
  refine ⟨file, content, hfile, ?_, hcontent, htext, fun hvalid => ?_⟩
  · rw [hfits.name_reader path hlength (hname ▸ length_display_lt hread), hname]
  · -- the text of a valid path has the bytes of the path
    have hpath : Path.ofString file.display = file := Text.Utf8.ofString_lossy hvalid
    rw [hpath, hlater]
    exact ⟨hread, read_setAt_of_makeDirectories hready hentry hread⟩

/-- A directory with a text and a content that is none: the text can be opened again under its name. -/
theorem build_reopens_text :
    let fs : FileSystem :=
      ⟨.directory [([100], .directory [([98], .file [104, 105, 10]), ([97], .file [0])])], []⟩
    let built := build 4 {} [105] [[47, 100]] fs
    built.result = .ok ⟨1, 1, 113⟩ ∧ ∃ r, Reader.openFile built.files [105] = .ok r ∧ r.fileCount = 1 ∧
      ∃ name, r.name 0 = .ok name ∧ built.files.read (Path.ofString name) = .ok [104, 105, 10] := by
  intro fs built
  have hresult : (build 4 {} [105] [[47, 100]] fs).result = .ok ⟨1, 1, 113⟩ := by cbv
  have hscanned : scannedFiles fs {} (collectFiles fs [[47, 100]]) = [[47, 100, 47, 98]] := by cbv
  have hcontent : smallContent? fs {} [47, 100, 47, 98] = some [104, 105, 10] := by cbv
  have htrail : fs.trailOf [47, 100, 47, 98] = [[], [[100]], [[100], [98]]] := by cbv
  have hhere : fs.makeDirectoriesAgainst .none (Writer.directoryOf [105]) = (.ok (), fs) := by cbv
  have hthere : fs.resolve .entry [105] = .ok (.missing [] [105]) := by cbv
  obtain ⟨ready, place, r, hready, hwritten, -, hopen, hcount, hnames⟩ :=
    build_reopens Host.lawful_usual 4 {} [105] [[47, 100]] fs hresult (by decide)
  -- the index is no file of the directory
  obtain rfl : fs = ready := (Prod.mk.inj (hhere.symm.trans hready)).2
  have hopened := hopen (hwritten.notMem_trailAbove hthere fun target htarget => by cases htarget)
  obtain ⟨reached, hreached, rfl⟩ := hwritten.leads.reached
  obtain rfl : Place.missing [] [105] = reached := Except.ok.inj (hthere.symm.trans hreached)
  have hcount : r.fileCount = 1 := hcount.trans (congrArg List.length hscanned)
  obtain ⟨file, content, hfile, hname, hsmall, -, hread⟩ := hnames 0 (by rw [hcount]; decide)
  obtain rfl : [47, 100, 47, 98] = file := Option.some.inj ((congrArg (·[0]?) hscanned).symm.trans hfile)
  obtain rfl : [104, 105, 10] = content := Option.some.inj (hcontent.symm.trans hsmall)
  refine ⟨hresult, r, hopened, hcount, _, hname, (hread (by cbv)).2 ?_⟩
  rw [htrail]
  decide

/-- A file whose name is no text cannot be opened again. -/
theorem build_loses_name :
    ¬ ∀ (batchSize : Nat) (config : Config) (path : Path) (roots : List Path) (fs : FileSystem) (summary : Summary)
        (r : Reader), (build batchSize config path roots fs).result = .ok summary →
      path ∉ collectFiles fs roots → Reader.openFile (build batchSize config path roots fs).files path = .ok r →
      ∀ id : FileId, id.toNat < r.fileCount →
        ∃ name content, r.name id = .ok name ∧ fs.read (Path.ofString name) = .ok content := by
  intro h
  let fs : FileSystem := ⟨.directory [([100], .directory [([255], .file [104, 105, 10])])], []⟩
  have hresult : (build 4 {} [105] [[47, 100]] fs).result = .ok ⟨1, 1, 115⟩ := by cbv
  have hfound : collectFiles fs [[47, 100]] = [[47, 100, 47, 255]] := by cbv
  have hlost : (Reader.openFile (build 4 {} [105] [[47, 100]] fs).files [105]).toOption.map (fun r =>
      (r.fileCount, (r.name 0).toOption.map fun name => (fs.read (Path.ofString name)).toOption)) =
        some (1, some none) := by cbv
  cases hopen : Reader.openFile (build 4 {} [105] [[47, 100]] fs).files [105] with
  | error fault =>
    rw [hopen] at hlost
    cases hlost
  | ok r =>
    rw [hopen] at hlost
    obtain ⟨hcount, hname⟩ := Prod.mk.inj (Option.some.inj hlost)
    obtain ⟨name, content, hthere, hread⟩ :=
      h 4 {} [105] [[47, 100]] fs _ r hresult (by rw [hfound]; decide) hopen 0 (by rw [hcount]; decide)
    rw [hthere] at hname
    have hnone : (fs.read (Path.ofString name)).toOption = none := Option.some.inj hname
    rw [hread] at hnone
    cases hnone

end TrigramGrep.Index
