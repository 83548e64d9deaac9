import TrigramGrep.Proofs.Index.RoundTrip

/-!
# An index of documents

When documents are handed to a writer one after the other, the texts among them are taken and numbered in
their order, each with the trigrams of its view, as long as there are ids for them and the host does not refuse
to set pairs aside.  So the holders of a trigram are the texts in whose view it stands, and an index of documents
always has few enough trigrams for the format.
-/

namespace TrigramGrep

/-- A content and the name that it goes by. -/
structure Document where
  name : String
  content : Bytes

namespace Index

/-- The documents that are text. -/
def textsOf (documents : List Document) : List Document :=
  documents.filter fun document => View.isText document.content

/-- A text as a file of an index: its name, and the trigrams of its view. -/
def fileOf (config : Config) (text : Document) : String × List Trigram :=
  (text.name, Trigram.windows (View.view text.content config.maxLineLength))

/-- Texts with the ids from a number on. -/
def numberedFrom (number : Nat) (texts : List Document) : List (FileId × Document) :=
  (texts.zipIdx number).map fun (text, number) => (UInt32.ofNat number, text)

/-- Hands documents to a writer, one after the other, as long as none is refused.  The result are the documents that
were taken, each with its id. -/
def Writer.addDocuments (w : Writer) (host : Host) (documents : List Document) :
    Except WriteFault (List (FileId × Document)) × Writer :=
  match w.performAll host (documents.map fun document => .addContent document.name document.content) with
  | (.error fault, w) => (.error fault, w)
  | (.ok ids, w) => (.ok ((ids.zip documents).filterMap fun (id, document) => id.map (·, document)), w)

/-! ## What is taken -/

variable {config : Config} {roots : List String} {files : List (String × List Trigram)}

/-- The calls that hand over documents bring the texts among them. -/
theorem filesOf_documents (config : Config) (documents : List Document) :
    Operation.filesOf config
        (documents.map fun document => .addContent document.name document.content) =
      (textsOf documents).map (fileOf config) := by
  rw [Operation.filesOf, List.filterMap_map, textsOf, ← List.filterMap_eq_map, List.filterMap_filter]
  rfl

/-- They bring no roots. -/
theorem rootsOf_documents (documents : List Document) :
    Operation.rootsOf (documents.map fun document => .addContent document.name document.content) = [] := by
  simp [Operation.rootsOf, Operation.roots]

/-- Where just the texts have ids, they have them in their order. -/
theorem filterMap_zip_ids {ids : List (Option FileId)} {documents : List Document}
    (h : ids.map Option.isSome = documents.map fun document => View.isText document.content) :
    (ids.zip documents).filterMap (fun (id, document) => id.map (·, document)) =
      ids.reduceOption.zip (textsOf documents) := by
  induction documents generalizing ids with
  | nil =>
    obtain rfl : ids = [] := List.map_eq_nil_iff.mp h
    rfl
  | cons document documents ih =>
    cases ids with
    | nil => cases h
    | cons id ids =>
      obtain ⟨hid, hids⟩ := List.cons.inj h
      have hrest := ih hids
      cases id with
      | none =>
        have htexts : textsOf (document :: documents) = textsOf documents :=
          List.filter_cons_of_neg (by simpa using hid.symm)
        rw [htexts, List.reduceOption_cons_of_none]
        exact hrest
      | some id =>
        have htexts : textsOf (document :: documents) = document :: textsOf documents :=
          List.filter_cons_of_pos hid.symm
        rw [htexts, List.reduceOption_cons_of_some, List.zip_cons_cons, List.zip_cons_cons, ← hrest]
        rfl

theorem numberedFrom_eq_zip (number : Nat) (texts : List Document) :
    numberedFrom number texts = ((List.range' number texts.length).map UInt32.ofNat).zip texts := by
  rw [numberedFrom, List.zipIdx_eq_zip_range']
  induction texts generalizing number with
  | nil => rfl
  | cons text texts ih =>
    rw [List.length_cons, List.range'_succ, List.zip_cons_cons, List.map_cons, ih, List.map_cons,
      List.zip_cons_cons]

/-- The texts are taken, in their order, unless there are not enough ids for them or the host refuses to set pairs
aside. -/
theorem Writer.Holds.addDocuments {w : Writer} (h : w.Holds config roots files) (hfiles : files.length ≤ maxWord)
    (host : Host) (documents : List Document) :
    (∃ next, w.addDocuments host documents = (.ok (numberedFrom files.length (textsOf documents)), next) ∧
        files.length + (textsOf documents).length ≤ maxWord ∧
        next.Holds config roots (files ++ (textsOf documents).map (fileOf config))) ∨
      ∃ fault next, w.addDocuments host documents = (.error fault, next) ∧
        (fault = .tooManyFiles ∧ maxWord < files.length + (textsOf documents).length ∨ host.Refuses fault) := by
  have hall := h.performAll hfiles host
    (documents.map fun document => .addContent document.name document.content)
  rw [filesOf_documents, rootsOf_documents, List.append_nil, List.length_map, List.map_map] at hall
  rw [Writer.addDocuments]
  rcases hall with ⟨ids, next, hok, hfew, hholds, hsome, hids⟩ | ⟨fault, next, herror, hwhy⟩
  · have hsome : ids.map Option.isSome = documents.map fun document => View.isText document.content := by
      rw [hsome]
      refine List.map_congr_left fun document _ => ?_
      simp only [Function.comp, Operation.file?, textFile?]
      split <;> simp [*]
    refine .inl ⟨next, ?_, hfew, hholds⟩
    rw [hok]
    dsimp only
    rw [filterMap_zip_ids hsome, hids, numberedFrom_eq_zip]
  · rw [herror]
    exact .inr ⟨fault, next, rfl, hwhy⟩

/-! ## Ids and trigrams -/

variable {texts : List Document} {t : Trigram} {id : FileId}

theorem mem_numberedFrom_zero {text : Document} :
    (id, text) ∈ numberedFrom 0 texts ↔ ∃ number, texts[number]? = some text ∧ UInt32.ofNat number = id := by
  simp only [numberedFrom, List.mem_map, Prod.exists, List.mk_mem_zipIdx_iff_getElem?, Prod.mk.injEq]
  constructor
  · rintro ⟨text, number, htext, hid, rfl⟩
    exact ⟨number, htext, hid⟩
  · rintro ⟨number, htext, hid⟩
    exact ⟨text, number, htext, hid, rfl⟩

theorem map_snd_numberedFrom (number : Nat) (texts : List Document) :
    (numberedFrom number texts).map Prod.snd = texts := by
  rw [numberedFrom, List.map_map]
  exact List.zipIdx_map_fst number texts

theorem pairwise_numberedFrom_zero (h : texts.length ≤ maxWord) :
    (numberedFrom 0 texts).Pairwise fun a b => a.1 < b.1 :=
  List.pairwise_map.mpr (pairwise_zipIdx h)

/-- The holders of a trigram are the texts in whose view it stands. -/
theorem mem_holders_texts :
    id ∈ holders (texts.map (fileOf config)) t ↔
      ∃ text, (id, text) ∈ numberedFrom 0 texts ∧
        t ∈ Trigram.windows (View.view text.content config.maxLineLength) := by
  rw [mem_holders_iff]
  simp only [mem_numberedFrom_zero, List.getElem?_map, Option.map_eq_some_iff]
  constructor
  · rintro ⟨number, _, ⟨text, htext, rfl⟩, ht, hid⟩
    exact ⟨text, ⟨number, htext, hid⟩, ht⟩
  · rintro ⟨text, ⟨number, htext, hid⟩, ht⟩
    exact ⟨number, _, ⟨text, htext, rfl⟩, ht, hid⟩

/-- All trigrams of windows are numbers of 24 bits. -/
theorem length_trigramsOf_le {files : List (String × List Trigram)}
    (h : ∀ file ∈ files, ∃ text, ∀ t ∈ file.2, t ∈ Trigram.windows text) :
    (trigramsOf files).length ≤ 2 ^ 24 := by
  refine SortedLists.length_le_of_nodup (List.nodup_dedup _) fun t ht => ?_
  obtain ⟨file, hfile, hmem⟩ := List.mem_flatMap.mp (List.mem_dedup.mp ht)
  obtain ⟨text, htext⟩ := h file hfile
  obtain ⟨a, b, c, -, rfl⟩ := Trigram.mem_windows_iff.mp (htext t hmem)
  exact Trigram.toNat_ofBytes_lt a b c

theorem length_trigramsOf_texts (texts : List Document) :
    (trigramsOf (texts.map (fileOf config))).length ≤ 2 ^ 24 := by
  refine length_trigramsOf_le fun file hfile => ?_
  obtain ⟨text, -, rfl⟩ := List.mem_map.mp hfile
  exact ⟨View.view text.content config.maxLineLength, fun _ ht => ht⟩

end Index

end TrigramGrep
