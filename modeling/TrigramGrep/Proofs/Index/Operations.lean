import Mathlib.Data.List.ReduceOption
import Mathlib.Data.List.Sort
import TrigramGrep.Index.Build
import TrigramGrep.Proofs.Index.Spill
import TrigramGrep.Proofs.Trigram.Extract

/-!
# What a writer has taken

A writer is called in any order, and its calls may be refused or bring no file.  What it says in the end
depends on the roots and on the files that were taken, each with its name and its set of trigrams, and on
nothing else: not on the threshold, nor on the order in which trigrams came or how often.  Nor does it depend on
what the host refuses: where a run cannot be written, the call fails, but its file has been taken.

What a call brings is said without the code (`Operation.file?`): a content that is text has the trigrams of the
windows of its view, and a file has a content if it can be read and is not too large.

## Shape of the proof

`Writer.Holds` ties a writer to the roots and the files that it has taken.  Each call keeps it
(`Writer.Holds.perform`), so every run of calls does (`Writer.holds_afterAll`); a run that stops at the first refusal
has taken all files if there was none (`Writer.Holds.performAll`).  From it follow the contents, because the merge of
the runs and the memory is the run of all pairs of the files (`Contents.ofFiles`).
-/

namespace TrigramGrep.Index

/-! ## Files and calls -/

/-- A content as a file of an index, if it is text: its name, and the trigrams of all windows of its view. -/
def textFile? (config : Config) (name : String) (content : Bytes) : Option (String × List Trigram) :=
  if View.isText content then some (name, Trigram.windows (View.view content config.maxLineLength)) else none

/-- The content of a file that can be read and is not too large. -/
def smallContent? (fs : FileSystem) (config : Config) (path : Path) : Option Bytes :=
  match fs.size path, fs.read path with
  | .ok size, .ok content => if size ≤ config.maxFileSize then some content else none
  | _, _ => none

/-- What a path leads to as a file of an index; it goes by the text of the path. -/
def fileAt? (fs : FileSystem) (config : Config) (path : Path) : Option (String × List Trigram) :=
  (smallContent? fs config path).bind (textFile? config path.display)

/-- A call of a writer. -/
inductive Operation where
  | addRoots (roots : List String)
  | addContent (name : String) (content : Bytes)
  | addStream (name : String) (stream : Stream)
  | addFile (fs : FileSystem) (path : Path)
  | addTrigrams (name : String) (trigrams : List Trigram)

namespace Operation

/-- The file that a call brings, by its name and its trigrams; what is no text, cannot be read or is too
large brings none. -/
def file? (config : Config) : Operation → Option (String × List Trigram)
  | .addRoots _ => none
  | .addContent name content => textFile? config name content
  | .addStream name stream => if stream.failure.isSome then none else textFile? config name stream.content
  | .addFile fs path => fileAt? fs config path
  | .addTrigrams name trigrams => some (name, trigrams)

/-- The roots that a call brings. -/
def roots : Operation → List String
  | .addRoots roots => roots
  | _ => []

/-- The files that calls bring. -/
def filesOf (config : Config) (calls : List Operation) : List (String × List Trigram) :=
  calls.filterMap (file? config)

/-- The files of calls that a writer takes: there are no more ids than numbers of 32 bits below the
largest. -/
def acceptedOf (config : Config) (calls : List Operation) : List (String × List Trigram) :=
  (filesOf config calls).take maxWord

/-- The roots that calls bring. -/
def rootsOf (calls : List Operation) : List String := calls.flatMap roots

/-- What may be answered to a file when `taken` files have been taken: the next id, as long as there is one.  If the
host refuses to set the buffer aside then, that may be answered instead. -/
def AnswersFile (host : Host) (taken : Nat) (answer : Except WriteFault FileId) : Prop :=
  if taken < maxWord then
    answer = .ok (UInt32.ofNat taken) ∨
      ∃ fault, host.spill (taken + 1) = some fault ∧ answer = .error (.spill fault)
  else answer = .error .tooManyFiles

/-- What may be answered where there may be a file: no id if there is none. -/
def AnswersFile? (host : Host) (taken : Nat) (file : Option (String × List Trigram))
    (answer : Except WriteFault (Option FileId)) : Prop :=
  match file with
  | none => answer = .ok none
  | some _ => ∃ id, AnswersFile host taken id ∧ answer = id.map some

/-- What may be answered to a call after others. -/
def Answers (host : Host) (config : Config) (before : List Operation) (call : Operation)
    (answer : Except WriteFault (Option FileId)) : Prop :=
  AnswersFile? host (acceptedOf config before).length (call.file? config) answer

/-- A host that can always set a buffer aside leaves one answer: the next id for a file, as long as there is one. -/
theorem Answers.eq_of_spills {host : Host} {config : Config} {before : List Operation} {call : Operation}
    {answer : Except WriteFault (Option FileId)} (hspill : ∀ files, host.spill files = none)
    (h : Answers host config before call answer) :
    answer = match call.file? config with
      | none => .ok none
      | some _ =>
        if (acceptedOf config before).length < maxWord then
          .ok (some (UInt32.ofNat (acceptedOf config before).length))
        else .error .tooManyFiles := by
  unfold Answers at h
  cases hfile : call.file? config with
  | none =>
    rw [hfile] at h
    exact h
  | some file =>
    rw [hfile] at h
    obtain ⟨id, hid, rfl⟩ := h
    unfold AnswersFile at hid
    dsimp only
    split at hid
    · next hroom =>
      rw [if_pos hroom]
      rcases hid with rfl | ⟨fault, hfault, -⟩
      · rfl
      · cases (hspill _).symm.trans hfault
    · next hfull => rw [if_neg hfull, hid]; rfl

end Operation

namespace Writer

/-- To take a file and to take what a scan finds in it is the same. -/
theorem addFile_eq_addScanned (w : Writer) (host : Host) (fs : FileSystem) (path : Path) :
    w.addFile fs path host = w.addScanned ⟨path, scan fs w.config path⟩ host := by
  rw [addFile, addScanned, scan]
  cases contentOf fs w.config.maxFileSize path with
  | error event => rfl
  | ok content =>
    dsimp only
    rw [addContent]
    cases trigramsOf? w.config content <;> rfl

/-- Makes a call. -/
def perform (w : Writer) (host : Host) : Operation → Except WriteFault (Option FileId) × Writer
  | .addRoots roots => (.ok none, w.addRoots roots)
  | .addContent name content => w.addContent name content host
  | .addStream name stream => w.addStream name stream host
  | .addFile fs path => w.addFile fs path host
  | .addTrigrams name trigrams => w.addFound name (some trigrams) host

/-- The writer after a call. -/
def after (host : Host) (w : Writer) (call : Operation) : Writer := (w.perform host call).2

/-- The writer after calls, made one after the other, whatever is answered. -/
def afterAll (w : Writer) (host : Host) (calls : List Operation) : Writer := calls.foldl (after host) w

/-- Makes calls one after the other, as long as none is refused; also tells the ids. -/
def performAll (w : Writer) (host : Host) : List Operation → Except WriteFault (List (Option FileId)) × Writer
  | [] => (.ok [], w)
  | call :: calls =>
    match w.perform host call with
    | (.error fault, w) => (.error fault, w)
    | (.ok id, w) =>
      match w.performAll host calls with
      | (.error fault, w) => (.error fault, w)
      | (.ok ids, w) => (.ok (id :: ids), w)

end Writer

/-- What a host says when it refuses to set a buffer aside. -/
def Host.Refuses (host : Host) (fault : WriteFault) : Prop :=
  ∃ files refused, host.spill files = some refused ∧ fault = .spill refused

/-! ## What is found in a file -/

/-- What was found in a content or a file is what is to be found in it: the same trigrams, in any order and any number
of times, or nothing if there is no file. -/
def Finds (name : String) (found : Option (List Trigram)) (file : Option (String × List Trigram)) : Prop :=
  match found, file with
  | none, none => True
  | some trigrams, some (other, words) => other = name ∧ ∀ t, t ∈ trigrams ↔ t ∈ words
  | _, _ => False

theorem finds_trigramsOf? (config : Config) (name : String) (content : Bytes) :
    Finds name (trigramsOf? config content) (textFile? config name content) := by
  rw [trigramsOf?, textFile?]
  split
  · exact ⟨rfl, fun _ => Trigram.mem_extract⟩
  · exact trivial

/-- A file that can be read and is not too large is read. -/
theorem toOption_contentOf (fs : FileSystem) (config : Config) (path : Path) :
    (contentOf fs config.maxFileSize path).toOption = smallContent? fs config path := by
  rw [contentOf, smallContent?]
  cases fs.size path with
  | error e => rfl
  | ok size =>
    dsimp only
    cases fs.read path with
    | error e => split <;> rfl
    | ok content =>
      dsimp only
      by_cases hlarge : config.maxFileSize < size
      · rw [if_pos hlarge, if_neg (Nat.not_le_of_lt hlarge)]
        rfl
      · rw [if_neg hlarge, if_pos (Nat.le_of_not_lt hlarge)]
        rfl

theorem finds_scan (fs : FileSystem) (config : Config) (path : Path) :
    Finds path.display (scan fs config path).toOption (fileAt? fs config path) := by
  rw [fileAt?, ← toOption_contentOf, scan]
  cases contentOf fs config.maxFileSize path with
  | error event => exact trivial
  | ok content =>
    have hfound := finds_trigramsOf? config path.display content
    dsimp only [Except.toOption, Option.bind_some]
    cases htrigrams : trigramsOf? config content with
    | none =>
      rw [htrigrams] at hfound
      exact hfound
    | some trigrams =>
      rw [htrigrams] at hfound
      exact hfound

/-! ## Pairs of files -/

/-- The pairs of files that are numbered from zero. -/
def pairsOf (files : List (String × List Trigram)) : List Pair :=
  files.zipIdx.flatMap fun (file, number) => file.2.map fun t => Pair.pack t (UInt32.ofNat number)

/-- What an index of files says. -/
def Contents.ofFiles (config : Config) (roots : List String) (files : List (String × List Trigram)) :
    Contents :=
  { roots := roots
    names := files.map (·.1)
    postings := Writer.groupPairs (Run.ofPairs (pairsOf files))
    maxLineLength := config.maxLineLength }

@[simp] theorem pairsOf_append_singleton (files : List (String × List Trigram))
    (file : String × List Trigram) :
    pairsOf (files ++ [file]) =
      pairsOf files ++ file.2.map fun t => Pair.pack t (UInt32.ofNat files.length) := by
  simp [pairsOf, List.zipIdx_append]

namespace Writer

/-- The roots and the files that a writer has taken. -/
structure Holds (w : Writer) (config : Config) (roots : List String)
    (files : List (String × List Trigram)) : Prop where
  config_eq : w.config = config
  roots_eq : w.roots.toList = roots
  names_eq : w.names.toList = files.map (·.1)
  runs : ∀ run ∈ w.runs.toList.map SpilledRun.run, run.Pairwise (· < ·)
  pairs : ∀ p, p ∈ (w.runs.toList.map SpilledRun.run).flatten ∨ p ∈ w.buffer.toList ↔ p ∈ pairsOf files

/-- A writer that has taken nothing. -/
theorem holds_new (config : Config) : Holds (new config) config [] [] :=
  ⟨rfl, rfl, rfl, by simp [new], by simp [new, pairsOf]⟩

namespace Holds

variable {w : Writer} {config : Config} {roots : List String}
  {files : List (String × List Trigram)} {host : Host}

theorem size_names (h : Holds w config roots files) : w.names.size = files.length := by
  rw [← Array.length_toList, h.names_eq, List.length_map]

theorem addRoots (h : Holds w config roots files) (more : List String) :
    Holds (w.addRoots more) config (roots ++ more) files :=
  { h with roots_eq := by simp [Writer.addRoots, h.roots_eq] }

/-- Setting the buffer aside takes nothing away, whether it succeeds or not. -/
theorem spill (h : Holds w config roots files) (host : Host) : Holds (w.spill host).2 config roots files := by
  unfold Writer.spill
  split
  · refine { h with pairs := fun p => ?_ }
    rw [← h.pairs p]
    simp
  · refine { h with runs := fun run hrun => ?_, pairs := fun p => ?_ }
    · rw [Array.toList_push, List.map_append, List.mem_append, List.map_singleton, List.mem_singleton,
        Run.run_ofPairs] at hrun
      rcases hrun with hrun | rfl
      · exact h.runs run hrun
      · exact Run.pairwise_ofPairs _
    · rw [← h.pairs p]
      simp

theorem settle (h : Holds w config roots files) (host : Host) : Holds (w.settle host).2 config roots files := by
  unfold Writer.settle
  split
  · exact h.spill host
  · exact h

end Holds

/-- Setting the buffer aside fails only where the host refuses it. -/
theorem settle_fst (w : Writer) (host : Host) :
    (w.settle host).1 = .ok () ∨
      ∃ fault, host.spill w.names.size = some fault ∧ (w.settle host).1 = .error (.spill fault) := by
  unfold settle spill
  split
  · cases hspill : host.spill w.names.size with
    | none => exact .inl rfl
    | some fault => exact .inr ⟨fault, rfl, rfl⟩
  · exact .inl rfl

/-- The pairs of a file are put behind the others in the order of its trigrams. -/
theorem toList_foldl_push (trigrams : List Trigram) (buffer : Array Pair) (id : FileId) :
    (trigrams.foldl (fun buffer t => buffer.push (Pair.pack t id)) buffer).toList =
      buffer.toList ++ trigrams.map fun t => Pair.pack t id := by
  induction trigrams generalizing buffer with
  | nil => simp
  | cons t trigrams ih => rw [List.foldl_cons, ih]; simp

namespace Holds

variable {w : Writer} {config : Config} {roots : List String}
  {files : List (String × List Trigram)} {host : Host}

/-- A file is taken with the next id, or refused when there is none. -/
theorem addTrigrams (h : Holds w config roots files) (host : Host) (name : String) {trigrams words : List Trigram}
    (hwords : ∀ t, t ∈ trigrams ↔ t ∈ words) :
    Operation.AnswersFile host files.length (w.addTrigrams name trigrams host).1 ∧
      Holds (w.addTrigrams name trigrams host).2 config roots
        (if files.length < maxWord then files ++ [(name, words)] else files) := by
  unfold Writer.addTrigrams Operation.AnswersFile
  rw [h.size_names]
  by_cases hroom : files.length < maxWord
  · rw [if_pos hroom, if_pos hroom, if_neg (Nat.not_le_of_lt hroom)]
    dsimp only
    generalize hnext : ({ w with
      names := w.names.push name
      buffer := trigrams.foldl (fun buffer t => buffer.push (Pair.pack t (UInt32.ofNat files.length))) w.buffer } :
        Writer) = next
    have hholds : Holds next config roots (files ++ [(name, words)]) := by
      subst hnext
      refine { h with names_eq := by simp [h.names_eq], pairs := fun p => ?_ }
      have hpairs : p ∈ trigrams.map (fun t => Pair.pack t (UInt32.ofNat files.length)) ↔
          p ∈ words.map fun t => Pair.pack t (UInt32.ofNat files.length) := by
        simp only [List.mem_map, hwords]
      rw [toList_foldl_push, pairsOf_append_singleton, List.mem_append, List.mem_append, ← h.pairs p, ← hpairs,
        or_assoc]
    have hsize : next.names.size = files.length + 1 := by
      rw [hholds.size_names, List.length_append, List.length_singleton]
    have hanswer := next.settle_fst host
    have hsettled := hholds.settle host
    rw [hsize] at hanswer
    generalize next.settle host = settling at hanswer hsettled ⊢
    obtain ⟨result, settled⟩ := settling
    rcases hanswer with rfl | ⟨fault, hfault, rfl⟩
    · exact ⟨.inl rfl, hsettled⟩
    · exact ⟨.inr ⟨fault, hfault, rfl⟩, hsettled⟩
  · rw [if_neg hroom, if_neg hroom, if_pos (Nat.le_of_not_lt hroom)]
    exact ⟨rfl, h⟩

/-- What is found in a file is taken, and nothing where there is no file. -/
theorem addFound (h : Holds w config roots files) (host : Host) {name : String} {found : Option (List Trigram)}
    {file : Option (String × List Trigram)} (hfound : Finds name found file) :
    Operation.AnswersFile? host files.length file (w.addFound name found host).1 ∧
      Holds (w.addFound name found host).2 config roots
        (if files.length < maxWord then files ++ file.toList else files) := by
  cases found with
  | none =>
    cases file with
    | none => exact ⟨rfl, by simpa [Writer.addFound] using h⟩
    | some file => exact hfound.elim
  | some trigrams =>
    cases file with
    | none => exact hfound.elim
    | some file =>
      obtain ⟨rfl, hwords⟩ := hfound
      obtain ⟨hanswer, hholds⟩ := h.addTrigrams host file.1 hwords
      rw [Writer.addFound]
      generalize w.addTrigrams file.1 trigrams host = taken at hanswer hholds ⊢
      obtain ⟨result, next⟩ := taken
      cases result with
      | error fault => exact ⟨⟨_, hanswer, rfl⟩, hholds⟩
      | ok id => exact ⟨⟨_, hanswer, rfl⟩, hholds⟩

/-- A content is taken if it is text. -/
theorem addContent (h : Holds w config roots files) (host : Host) (name : String) (content : Bytes) :
    Operation.AnswersFile? host files.length (textFile? config name content) (w.addContent name content host).1 ∧
      Holds (w.addContent name content host).2 config roots
        (if files.length < maxWord then files ++ (textFile? config name content).toList else files) :=
  h.addFound host (h.config_eq ▸ finds_trigramsOf? w.config name content)

end Holds

/-- A call records roots, or it hands over what is found in its file. -/
theorem perform_cases (w : Writer) (host : Host) (call : Operation) :
    (∃ more, call = .addRoots more) ∨ call.roots = [] ∧ ∃ name found,
      Finds name found (call.file? w.config) ∧ w.perform host call = w.addFound name found host := by
  cases call with
  | addRoots more => exact .inl ⟨more, rfl⟩
  | addContent name content => exact .inr ⟨rfl, name, _, finds_trigramsOf? w.config name content, rfl⟩
  | addStream name stream =>
    refine .inr ⟨rfl, name, ?_⟩
    rw [Operation.file?, perform, addStream]
    cases stream.failure with
    | some error => exact ⟨none, trivial, rfl⟩
    | none => exact ⟨_, finds_trigramsOf? w.config name stream.content, rfl⟩
  | addFile fs path =>
    exact .inr ⟨rfl, path.display, _, finds_scan fs w.config path, addFile_eq_addScanned w host fs path⟩
  | addTrigrams name trigrams => exact .inr ⟨rfl, name, some trigrams, ⟨rfl, fun _ => Iff.rfl⟩, rfl⟩

/-- The file of one more call is taken as long as there is an id for it. -/
theorem acceptedOf_append_singleton (config : Config) (before : List Operation) (call : Operation) :
    Operation.acceptedOf config (before ++ [call]) =
      if (Operation.acceptedOf config before).length < maxWord then
        Operation.acceptedOf config before ++ (call.file? config).toList
      else Operation.acceptedOf config before := by
  have hfiles : Operation.filesOf config (before ++ [call]) =
      Operation.filesOf config before ++ (call.file? config).toList := by
    rw [Operation.filesOf, List.filterMap_append]
    cases h : call.file? config <;> simp [h, Operation.filesOf]
  have hone : (call.file? config).toList.length ≤ 1 := by cases call.file? config <;> simp
  rw [Operation.acceptedOf, Operation.acceptedOf, hfiles, List.length_take]
  split
  · next hroom =>
    have hall : (Operation.filesOf config before ++ (call.file? config).toList).length ≤ maxWord := by
      rw [List.length_append]
      omega
    rw [List.take_of_length_le hall, List.take_of_length_le (by omega)]
  · next hfull => rw [List.take_append_of_le_length (by omega)]

variable {config : Config} {roots : List String} {files : List (String × List Trigram)} {host : Host}

/-- A call is answered as it may be, and what it brings is taken as long as there is an id for it. -/
theorem Holds.perform {w : Writer} (h : Holds w config roots files) (host : Host) (call : Operation) :
    Operation.AnswersFile? host files.length (call.file? config) (w.perform host call).1 ∧
      Holds (w.after host call) config (roots ++ call.roots)
        (if files.length < maxWord then files ++ (call.file? config).toList else files) := by
  rw [after]
  rcases perform_cases w host call with ⟨more, rfl⟩ | ⟨hcall, name, found, hfound, hperform⟩
  · have hnone : (Operation.addRoots more).file? config = none := rfl
    rw [hnone, Option.toList_none, List.append_nil, ite_self]
    exact ⟨rfl, h.addRoots more⟩
  · rw [h.config_eq] at hfound
    rw [hcall, List.append_nil, hperform]
    exact h.addFound host hfound

/-- A run of calls leaves behind all roots and the files that were accepted. -/
theorem holds_afterAll (host : Host) (config : Config) (calls : List Operation) :
    Holds ((new config).afterAll host calls) config (Operation.rootsOf calls)
      (Operation.acceptedOf config calls) := by
  induction calls using List.reverseRecOn with
  | nil => exact holds_new config
  | append_singleton before call ih =>
    have hroots : Operation.rootsOf (before ++ [call]) = Operation.rootsOf before ++ call.roots := by
      simp [Operation.rootsOf]
    rw [afterAll, List.foldl_append, acceptedOf_append_singleton, hroots]
    exact (ih.perform host call).2

/-- Each call of a run is answered as it may be. -/
theorem perform_afterAll (host : Host) (config : Config) (before : List Operation) (call : Operation) :
    Operation.Answers host config before call (((new config).afterAll host before).perform host call).1 :=
  ((holds_afterAll host config before).perform host call).1

/-! ## Calls none of which is refused -/

/-- What comes of one list of calls and then of another is what comes of both in a row. -/
theorem performAll_append (w : Writer) (host : Host) (calls others : List Operation) :
    w.performAll host (calls ++ others) =
      match w.performAll host calls with
      | (.error fault, w) => (.error fault, w)
      | (.ok ids, w) =>
        match w.performAll host others with
        | (.error fault, w) => (.error fault, w)
        | (.ok more, w) => (.ok (ids ++ more), w) := by
  induction calls generalizing w with
  | nil =>
    rw [List.nil_append, performAll]
    dsimp only
    split <;> simp [*]
  | cons call calls ih =>
    rw [List.cons_append, performAll, performAll]
    rcases w.perform host call with ⟨_ | id, between⟩
    · rfl
    · dsimp only
      rw [ih]
      rcases between.performAll host calls with ⟨_ | ids, next⟩
      · rfl
      · dsimp only
        rcases next.performAll host others with ⟨_ | more, last⟩ <;> rfl

/-- The file of a call is taken with the next id, unless there is none or the host refuses to set pairs aside. -/
theorem Holds.perform_of_le {w : Writer} (h : Holds w config roots files) (hfiles : files.length ≤ maxWord)
    (host : Host) (call : Operation) :
    (∃ next, w.perform host call = (.ok ((call.file? config).map fun _ => UInt32.ofNat files.length), next) ∧
        files.length + (call.file? config).toList.length ≤ maxWord ∧
        Holds next config (roots ++ call.roots) (files ++ (call.file? config).toList)) ∨
      ∃ fault next, w.perform host call = (.error fault, next) ∧
        (fault = .tooManyFiles ∧ maxWord < files.length + (call.file? config).toList.length ∨
          host.Refuses fault) := by
  obtain ⟨hanswer, hnext⟩ := h.perform host call
  rw [after] at hnext
  generalize w.perform host call = called at hanswer hnext ⊢
  obtain ⟨answer, next⟩ := called
  dsimp only at hanswer hnext
  cases hfile : call.file? config with
  | none =>
    rw [hfile] at hanswer hnext
    obtain rfl : answer = .ok none := hanswer
    rw [Option.toList_none, List.append_nil, ite_self] at hnext
    exact .inl ⟨next, rfl, hfiles, by simpa using hnext⟩
  | some file =>
    rw [hfile] at hanswer hnext
    obtain ⟨id, hid, rfl⟩ := hanswer
    rw [Option.toList_some, List.length_singleton]
    unfold Operation.AnswersFile at hid
    split at hid
    case isTrue hroom =>
      rw [if_pos hroom] at hnext
      rcases hid with rfl | ⟨refused, hrefused, rfl⟩
      · exact .inl ⟨next, rfl, hroom, hnext⟩
      · exact .inr ⟨.spill refused, next, rfl, .inr ⟨_, refused, hrefused, rfl⟩⟩
    case isFalse hfull =>
      subst hid
      exact .inr ⟨.tooManyFiles, next, rfl, .inl ⟨rfl, by omega⟩⟩

/-- The files of calls are all taken and have the ids from the next one on, in their order; a call that brings none
shifts no id.  Otherwise there are too many of them, or the host refuses to set pairs aside. -/
theorem Holds.performAll {w : Writer} (h : Holds w config roots files) (hfiles : files.length ≤ maxWord)
    (host : Host) (calls : List Operation) :
    (∃ ids next, w.performAll host calls = (.ok ids, next) ∧
        files.length + (Operation.filesOf config calls).length ≤ maxWord ∧
        Holds next config (roots ++ Operation.rootsOf calls) (files ++ Operation.filesOf config calls) ∧
        ids.map Option.isSome = calls.map (fun call => (call.file? config).isSome) ∧
        ids.reduceOption =
          (List.range' files.length (Operation.filesOf config calls).length).map UInt32.ofNat) ∨
      ∃ fault next, w.performAll host calls = (.error fault, next) ∧
        (fault = .tooManyFiles ∧ maxWord < files.length + (Operation.filesOf config calls).length ∨
          host.Refuses fault) := by
  induction calls generalizing w roots files with
  | nil =>
    exact .inl ⟨[], w, rfl, hfiles, by simpa [Operation.rootsOf, Operation.filesOf] using h, rfl, rfl⟩
  | cons call calls ih =>
    have hroots : Operation.rootsOf (call :: calls) = call.roots ++ Operation.rootsOf calls := by
      simp [Operation.rootsOf]
    have hothers : Operation.filesOf config (call :: calls) =
        (call.file? config).toList ++ Operation.filesOf config calls := by
      cases hfile : call.file? config <;> simp [Operation.filesOf, hfile]
    rw [Writer.performAll, hroots, hothers, List.length_append, ← Nat.add_assoc]
    rcases h.perform_of_le hfiles host call with ⟨between, hcall, hfew, hbetween⟩ | ⟨fault, between, hcall, hwhy⟩
    · -- the other files are numbered behind the one of this call
      have hrest := ih hbetween (by rw [List.length_append]; exact hfew)
      rw [List.length_append] at hrest
      rw [hcall]
      dsimp only
      rcases hrest with ⟨ids, next, hok, hall, hholds, hsome, hids⟩ | ⟨fault, next, herror, hwhy⟩
      · rw [hok]
        refine .inl ⟨_, next, rfl, hall, ?_, ?_, ?_⟩
        · rw [← List.append_assoc, ← List.append_assoc]
          exact hholds
        · rw [List.map_cons, List.map_cons, hsome, Option.isSome_map]
        · rw [← List.range'_append_1, List.map_append, ← hids]
          cases call.file? config <;> rfl
      · rw [herror]
        exact .inr ⟨fault, next, rfl, hwhy⟩
    · rw [hcall]
      exact .inr ⟨fault, between, rfl, hwhy.imp_left fun ⟨hfault, hmany⟩ => ⟨hfault, by omega⟩⟩

/-! ## Contents -/

/-- What a writer says depends on its roots and its files only. -/
theorem Holds.contents {w : Writer} {roots : List String} {files : List (String × List Trigram)}
    (h : Holds w config roots files) : w.contents = Contents.ofFiles config roots files := by
  have hmerge : w.merged = Run.ofPairs (pairsOf files) := by
    rw [Writer.merged]
    refine List.Pairwise.eq_of_mem_iff (Run.pairwise_merge h.runs) (Run.pairwise_ofPairs _) fun p => ?_
    rw [Run.mem_merge h.runs, h.pairs, Run.mem_ofPairs]
  rw [Writer.contents, hmerge, h.roots_eq, h.names_eq, h.config_eq, Contents.ofFiles]

/-- What is said after a run of calls. -/
theorem contents_afterAll (host : Host) (config : Config) (calls : List Operation) :
    ((new config).afterAll host calls).contents =
      Contents.ofFiles config (Operation.rootsOf calls) (Operation.acceptedOf config calls) :=
  (holds_afterAll host config calls).contents

end Writer

end TrigramGrep.Index
