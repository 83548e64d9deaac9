import TrigramGrep.Proofs.Index.Operations

/-!
# Building by batches

A build scans a batch of files at a time and then hands what was found to the writer.  The index is the one
that a writer makes of the same files when it takes them one after the other, looking at each when its turn has
come.  So the size of the batches, and with it the number of workers, leaves no trace, whatever the host refuses.

## Shape of the proof

What a scan has found and what a writer finds on its own are the same (`Writer.addFile_eq_addScanned`), and the
settings that a scan depends on never change (`Writer.config_addScanned`).  So a batch does what its files do
(`Writer.addAll_eq_addFiles`), and batches do what their files do, all in a row (`addBatches_eq_addFiles`).
-/

namespace TrigramGrep.Index

/-! ## One file after the other -/

/-- Takes the files that paths lead to, one after the other, as long as none is refused; also tells the ids, none for
a file that is passed over. -/
def Writer.addFiles (w : Writer) (host : Host) (fs : FileSystem) (paths : List Path) :
    Except WriteFault (List (Option FileId)) × Writer :=
  w.performAll host (paths.map (.addFile fs))

/-- Builds the index of files without batches. -/
def buildInOrder (host : Host) (config : Config) (path : Path) (roots files : List Path) (fs : FileSystem) :
    Except WriteFault Summary × FileSystem :=
  match ((Writer.new config).addRoots (roots.map Path.display)).addFiles host fs files with
  | (.error fault, _) => (.error fault, fs)
  | (.ok _, w) => w.flushAgainst host path fs

/-- The files that get an id, each by the text of its path and its trigrams. -/
def indexedFiles (fs : FileSystem) (config : Config) (files : List Path) : List (String × List Trigram) :=
  files.filterMap (fileAt? fs config)

/-! ## Batches -/

/-- Batches are pieces of the list, in its order. -/
theorem flatten_batchesOf (size : Nat) (files : List Path) : (batchesOf size files).flatten = files := by
  fun_induction batchesOf size files with
  | case1 => rfl
  | case2 files hne ih => rw [List.flatten_cons, ih, List.take_append_drop]

namespace Writer

theorem config_settle (w : Writer) (host : Host) : (w.settle host).2.config = w.config := by
  unfold settle spill
  split
  · split <;> rfl
  · rfl

theorem config_addTrigrams (w : Writer) (name : String) (trigrams : List Trigram) (host : Host) :
    (w.addTrigrams name trigrams host).2.config = w.config := by
  rw [addTrigrams]
  split
  · rfl
  · dsimp only
    split <;> next h => exact (congrArg (·.2.config) h).symm.trans (config_settle _ host)

/-- The settings of a writer stay what they are. -/
theorem config_addScanned (w : Writer) (file : Scanned) (host : Host) :
    (w.addScanned file host).2.config = w.config := by
  unfold addScanned addFound
  split
  · rfl
  · next trigrams _ =>
    have hconfig := config_addTrigrams w file.path.display trigrams host
    split <;> next h => exact (congrArg (·.2.config) h).symm.trans hconfig

/-- The files of a batch are taken as if each was looked at when its turn has come. -/
theorem addAll_eq_addFiles (w : Writer) (host : Host) (fs : FileSystem) (batch : List Path) :
    w.addAll host (batch.map fun path => ⟨path, scan fs w.config path⟩) =
      (w.addFiles host fs batch).map (Except.map fun _ => ()) id := by
  induction batch generalizing w with
  | nil => rfl
  | cons path batch ih =>
    have hfile : w.perform host (.addFile fs path) = _ := addFile_eq_addScanned w host fs path
    have hconfig := config_addScanned w ⟨path, scan fs w.config path⟩ host
    rw [List.map_cons, addAll, addFiles, List.map_cons, performAll, hfile]
    generalize w.addScanned ⟨path, scan fs w.config path⟩ host = taken at hconfig
    obtain ⟨_ | id, next⟩ := taken
    · rfl
    · dsimp only at hconfig ⊢
      rw [← hconfig, ih, addFiles]
      rcases next.performAll host (batch.map (.addFile fs)) with ⟨_ | ids, last⟩ <;> rfl

end Writer

/-- Batches are taken as all their files in a row. -/
theorem addBatches_eq_addFiles (fs : FileSystem) (host : Host) (w : Writer) (batches : List (List Path)) :
    (addBatches fs host w batches).2 = (w.addFiles host fs batches.flatten).map (Except.map fun _ => ()) id := by
  induction batches generalizing w with
  | nil => rfl
  | cons batch batches ih =>
    rw [addBatches, List.flatten_cons, Writer.addFiles, List.map_append, Writer.performAll_append,
      Writer.addAll_eq_addFiles, Writer.addFiles]
    rcases w.performAll host (batch.map (.addFile fs)) with ⟨_ | ids, next⟩
    · rfl
    · have hrest := ih next
      rw [Writer.addFiles] at hrest
      dsimp only [Prod.map, Except.map, id]
      rw [hrest]
      rcases next.performAll host (batches.flatten.map (.addFile fs)) with ⟨_ | more, last⟩ <;> rfl

/-- However large the batches are, a list of files is taken as it is. -/
theorem addBatches_batchesOf (fs : FileSystem) (host : Host) (w : Writer) (size : Nat) (files : List Path) :
    (addBatches fs host w (batchesOf size files)).2 =
      (w.addFiles host fs files).map (Except.map fun _ => ()) id := by
  rw [addBatches_eq_addFiles, flatten_batchesOf]

/-! ## Builds -/

/-- The calls that take files bring those that get an id. -/
theorem filesOf_addFile (fs : FileSystem) (config : Config) (files : List Path) :
    Operation.filesOf config (files.map (.addFile fs)) = indexedFiles fs config files := by
  rw [Operation.filesOf, List.filterMap_map]
  rfl

/-- What a writer of nothing but roots says when it has taken files. -/
theorem contents_of_addFiles (host : Host) (config : Config) (roots : List String) (fs : FileSystem)
    (files : List Path) :
    (∃ ids w, ((Writer.new config).addRoots roots).addFiles host fs files = (.ok ids, w) ∧
        (indexedFiles fs config files).length ≤ maxWord ∧
        ids.map Option.isSome = files.map (fun path => (fileAt? fs config path).isSome) ∧
        ids.reduceOption = (List.range (indexedFiles fs config files).length).map UInt32.ofNat ∧
        w.contents = Contents.ofFiles config roots (indexedFiles fs config files)) ∨
      ∃ fault w, ((Writer.new config).addRoots roots).addFiles host fs files = (.error fault, w) ∧
        (fault = .tooManyFiles ∧ maxWord < (indexedFiles fs config files).length ∨ host.Refuses fault) := by
  have hall := ((Writer.holds_new config).addRoots roots).performAll (Nat.zero_le _) host (files.map (.addFile fs))
  have hroots : Operation.rootsOf (files.map (.addFile fs)) = [] := by
    simp [Operation.rootsOf, Operation.roots]
  rw [filesOf_addFile, hroots, List.append_nil, List.length_nil, Nat.zero_add, ← List.range_eq_range',
    List.map_map] at hall
  refine hall.imp_left ?_
  rintro ⟨ids, w, hok, hfew, hholds, hsome, hids⟩
  exact ⟨ids, w, hok, hfew, hsome, hids, hholds.contents⟩

/-- A build leaves behind what a build in order does. -/
theorem result_and_files_build (batchSize : Nat) (host : Host) (config : Config) (path : Path) (roots : List Path)
    (fs : FileSystem) :
    ((build batchSize config path roots fs host).result, (build batchSize config path roots fs host).files) =
      buildInOrder host config path roots (collectFiles fs roots host.walk) fs := by
  have hfound := addBatches_batchesOf fs host ((Writer.new config).addRoots (roots.map Path.display)) batchSize
    (collectFiles fs roots host.walk)
  unfold build buildInOrder
  dsimp only
  generalize addBatches fs host ((Writer.new config).addRoots (roots.map Path.display))
    (batchesOf batchSize (collectFiles fs roots host.walk)) = taken at hfound
  obtain ⟨events, result, w⟩ := taken
  generalize ((Writer.new config).addRoots (roots.map Path.display)).addFiles host fs
    (collectFiles fs roots host.walk) = added at hfound
  obtain ⟨_ | ids, v⟩ := added
  · obtain ⟨rfl, -⟩ := Prod.mk.inj hfound
    rfl
  · obtain ⟨rfl, rfl⟩ := Prod.mk.inj hfound
    dsimp only [Except.map, id]
    unfold finish
    rcases w.flushAgainst host path fs with ⟨_ | summary, files⟩ <;> rfl

/-- **A build by batches is a build in order.**  For every size of the batches and every host:

* a writer that is handed any list of files in batches ends up as one that takes them one after the other, and is
  refused when that is;
* a build gives the summary and the files of a build in order, byte for byte, and refuses when that does;
* in a build in order the files that can be read, are not too large and are text get the ids from zero on, in the
  order in which they were found, and what the index says is said of these.  It is refused only if there are too many
  of them, or by a host that cannot set pairs aside. -/
theorem build_eq_buildInOrder (batchSize : Nat) (host : Host) (config : Config) (path : Path) (roots : List Path)
    (fs : FileSystem) :
    (∀ (w : Writer) (files : List Path),
        (addBatches fs host w (batchesOf batchSize files)).2 =
          (w.addFiles host fs files).map (Except.map fun _ => ()) id) ∧
      ((build batchSize config path roots fs host).result, (build batchSize config path roots fs host).files) =
        buildInOrder host config path roots (collectFiles fs roots host.walk) fs ∧
      ∀ files : List Path,
        (∃ ids w, ((Writer.new config).addRoots (roots.map Path.display)).addFiles host fs files = (.ok ids, w) ∧
            (indexedFiles fs config files).length ≤ maxWord ∧
            ids.map Option.isSome = files.map (fun path => (fileAt? fs config path).isSome) ∧
            ids.reduceOption = (List.range (indexedFiles fs config files).length).map UInt32.ofNat ∧
            w.contents = Contents.ofFiles config (roots.map Path.display) (indexedFiles fs config files)) ∨
          ∃ fault w,
            ((Writer.new config).addRoots (roots.map Path.display)).addFiles host fs files = (.error fault, w) ∧
              (fault = .tooManyFiles ∧ maxWord < (indexedFiles fs config files).length ∨ host.Refuses fault) :=
  ⟨fun w files => addBatches_batchesOf fs host w batchSize files,
    result_and_files_build batchSize host config path roots fs,
    fun files => contents_of_addFiles host config (roots.map Path.display) fs files⟩

end TrigramGrep.Index
