import TrigramGrep.Grep

/-!
# A search as a list of lines

A search goes from match to match and prints on the way.  Here the two are taken apart: first the lines with a match
are listed (`Grep.hits`, `Grep.foundLines`), then they are shown as the switches say.  Both forms print the same and
have the same answer (`Grep.search_eq`), so what is proved of the list holds of the search.

## Shape of the proof

The search is generalised over how far it has come, and there is one lemma for each way of printing.  For names only,
the first hit ends it (`Grep.searchFrom_of_namesOnly`).  The other two are inductions on the steps that are left: what
was counted before is added to the number of hits (`Grep.searchFrom_of_count`), and each line is printed
(`Grep.searchFrom_of_lines`).  The number of a line is kept up only where it is printed; elsewhere the list has numbers
that nothing shows (`Grep.flatMap_strokes_congr`).
-/

namespace TrigramGrep.Grep

variable {find : Matcher} {options : Options} {name : String} {buffer : Buffer}

/-! ## Hits -/

/-- The lines with a match that starts at or after a position, at most `fuel` of them. -/
def hitsFrom (find : Matcher) (buffer : Buffer) : Nat → Nat → List Hit
  | 0, _ => []
  | fuel + 1, position =>
    match nextHit find buffer position with
    | none => []
    | some hit => hit :: hitsFrom find buffer fuel (hit.line.stop + 1)

/-- The lines with a match.  The search moves on with every line, so there are no more of them than
positions. -/
def hits (find : Matcher) (buffer : Buffer) : List Hit :=
  hitsFrom find buffer (buffer.size + 1) 0

/-- A hit is the line around its first match. -/
theorem line_of_nextHit {position : Nat} {hit : Hit} (h : nextHit find buffer position = some hit) :
    hit.line = ⟨buffer.lineStart hit.first.start, buffer.lineStop hit.first.start⟩ := by
  unfold nextHit at h
  split at h
  · split at h
    · cases h
    · split at h <;> cases h
      rfl
  · cases h

theorem exists_nextHit_of_mem_hitsFrom {fuel position : Nat} {hit : Hit}
    (h : hit ∈ hitsFrom find buffer fuel position) : ∃ start, nextHit find buffer start = some hit := by
  induction fuel generalizing position with
  | zero => exact absurd h List.not_mem_nil
  | succ fuel ih =>
    rw [hitsFrom] at h
    split at h
    · exact absurd h List.not_mem_nil
    · next first hfirst =>
      rcases List.mem_cons.mp h with rfl | hrest
      · exact ⟨position, hfirst⟩
      · exact ih hrest

/-- Behind the end of a text there is no hit. -/
theorem hitsFrom_of_lt {position : Nat} (h : buffer.size < position) (fuel : Nat) :
    hitsFrom find buffer fuel position = [] := by
  cases fuel with
  | zero => rfl
  | succ fuel => rw [hitsFrom, nextHit, if_neg (Nat.not_le_of_lt h)]

/-- Where nothing is found there are no hits. -/
theorem hits_of_find_eq_none (h : find buffer 0 = none) : hits find buffer = [] := by
  rw [hits, hitsFrom, nextHit, if_pos (Nat.zero_le _), h]

/-! ## Lines that are found -/

/-- A line with a match: its number, counted from one, its bytes and the spans of its matches. -/
structure FoundLine where
  number : Nat
  text : Bytes
  spans : List Span

/-- How a line is printed where lines are printed. -/
def FoundLine.strokes (options : Options) (name : String) (line : FoundLine) : List Stroke :=
  Output.matchLine (if options.noFileName then none else some name)
    (if options.lineNumbers then some line.number else none) line.text line.spans

/-- The lines of a list of hits; `number` is the number of the line that begins at `counted`. -/
def numbered (find : Matcher) (buffer : Buffer) : List Hit → (counted number : Nat) → List FoundLine
  | [], _, _ => []
  | hit :: hits, counted, number =>
    let number := number + buffer.newlines counted (hit.line.start - counted)
    ⟨number, bytesOf buffer hit.line, spans find buffer hit⟩ ::
      numbered find buffer hits hit.line.start number

/-- The lines of the view of a content with a match. -/
def foundLines (find : Matcher) (maxLineLength : Nat) (content : Bytes) : List FoundLine :=
  let buffer : Buffer := (View.view content maxLineLength).toArray
  numbered find buffer (hits find buffer) 0 1

theorem length_numbered (find : Matcher) (buffer : Buffer) (hits : List Hit) (counted number : Nat) :
    (numbered find buffer hits counted number).length = hits.length := by
  induction hits generalizing counted number with
  | nil => rfl
  | cons hit hits ih => rw [numbered, List.length_cons, ih, List.length_cons]

theorem length_foundLines (find : Matcher) (maxLineLength : Nat) (content : Bytes) :
    (foundLines find maxLineLength content).length =
      (hits find (View.view content maxLineLength).toArray).length :=
  length_numbered find _ _ 0 1

/-- Where no numbers are printed, it makes no difference from where lines are counted. -/
theorem flatMap_strokes_congr (hnumbers : options.lineNumbers = false) (hits : List Hit)
    (counted counted' number number' : Nat) :
    (numbered find buffer hits counted number).flatMap (FoundLine.strokes options name) =
      (numbered find buffer hits counted' number').flatMap (FoundLine.strokes options name) := by
  induction hits generalizing counted counted' number number' with
  | nil => rfl
  | cons hit hits ih =>
    rw [numbered, numbered, List.flatMap_cons, List.flatMap_cons, ih hit.line.start hit.line.start]
    simp only [FoundLine.strokes, hnumbers]
    rfl

/-! ## The search -/

/-- For names only, the first hit ends the search. -/
theorem searchFrom_of_namesOnly (h : options.namesOnly = true) (fuel : Nat) (p : Progress) :
    searchFrom find options name buffer fuel p =
      if (hitsFrom find buffer fuel p.position).isEmpty then (searchFrom.ending options name p, false)
      else (Output.nameLine name, true) := by
  cases fuel with
  | zero => rfl
  | succ fuel =>
    rw [searchFrom, hitsFrom]
    cases nextHit find buffer p.position with
    | none => rfl
    | some hit =>
      dsimp only
      rw [if_pos h]
      rfl

/-- Where lines are counted, the hits are added to what was counted before. -/
theorem searchFrom_of_count (hnames : options.namesOnly = false) (hcount : options.count = true) (fuel : Nat)
    (p : Progress) :
    searchFrom find options name buffer fuel p =
      (searchFrom.ending options name { p with count := p.count + (hitsFrom find buffer fuel p.position).length },
        !(hitsFrom find buffer fuel p.position).isEmpty) := by
  induction fuel generalizing p with
  | zero => rfl
  | succ fuel ih =>
    rw [searchFrom, hitsFrom]
    cases nextHit find buffer p.position with
    | none => rfl
    | some hit =>
      have hafter : p.after options buffer hit = { p with position := hit.line.stop + 1, count := p.count + 1 } := by
        simp [Progress.after, hcount]
      dsimp only
      rw [if_neg (by simp [hnames]), ih, hafter, printHit, if_pos hcount, List.length_cons, Nat.add_assoc,
        Nat.add_comm 1]
      rfl

/-- Otherwise each line is printed. -/
theorem searchFrom_of_lines (hnames : options.namesOnly = false) (hcount : options.count = false) (fuel : Nat)
    (p : Progress) :
    searchFrom find options name buffer fuel p =
      ((numbered find buffer (hitsFrom find buffer fuel p.position) p.counted p.number).flatMap
          (FoundLine.strokes options name),
        !(hitsFrom find buffer fuel p.position).isEmpty) := by
  induction fuel generalizing p with
  | zero => simp [searchFrom, hitsFrom, numbered, searchFrom.ending, hcount]
  | succ fuel ih =>
    rw [searchFrom, hitsFrom]
    cases nextHit find buffer p.position with
    | none => simp [numbered, searchFrom.ending, hcount]
    | some hit =>
      dsimp only
      rw [if_neg (by simp [hnames]), ih, printHit, if_neg (by simp [hcount]), numbered, List.flatMap_cons]
      cases hnumbers : options.lineNumbers with
      | true =>
        simp [Progress.after, hcount, hnumbers, FoundLine.strokes, searchFrom.shown]
      | false =>
        -- the search has not counted on
        rw [flatMap_strokes_congr hnumbers _ hit.line.start (p.after options buffer hit).counted _
          (p.after options buffer hit).number]
        simp [Progress.after, hcount, hnumbers, FoundLine.strokes, searchFrom.shown]

/-- **What a search prints, and its answer, said by the lines that are found.** -/
theorem search_eq (find : Matcher) (options : Options) (maxLineLength : Nat) (name : String)
    (content : Bytes) :
    let lines := foundLines find maxLineLength content
    search find options maxLineLength name content =
      (if options.namesOnly then if 0 < lines.length then Output.nameLine name else []
        else if options.count then
          if 0 < lines.length then
            Output.countLine (if options.noFileName then none else some name) lines.length
          else []
        else lines.flatMap (FoundLine.strokes options name),
      decide (0 < lines.length)) := by
  intro lines
  have hlength : lines.length = (hits find (View.view content maxLineLength).toArray).length :=
    length_foundLines find maxLineLength content
  have hempty : (!(hits find (View.view content maxLineLength).toArray).isEmpty) = decide (0 < lines.length) := by
    rw [hlength]
    cases hits find (View.view content maxLineLength).toArray <;> simp
  rw [search, ← hempty]
  cases hnames : options.namesOnly with
  | true =>
    rw [searchFrom_of_namesOnly hnames, hlength]
    show (if (hits find _).isEmpty = true then _ else _) = _
    cases hits find (View.view content maxLineLength).toArray <;> simp [searchFrom.ending]
  | false =>
    cases hcount : options.count with
    | true =>
      rw [searchFrom_of_count hnames hcount, hlength]
      simp [searchFrom.ending, searchFrom.shown, hcount, hits]
    | false =>
      rw [searchFrom_of_lines hnames hcount]
      simp [lines, foundLines, hits]

end TrigramGrep.Grep
