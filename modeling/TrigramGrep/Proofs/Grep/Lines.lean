import Mathlib
import TrigramGrep.Proofs.Grep.Hits
import TrigramGrep.Proofs.Output
import TrigramGrep.Proofs.Text.Lines

/-!
# What is printed are the lines with a match

A search jumps from a match to the line behind it.  Said without the jumps: a line is printed if a match starts
on it, that is, at one of its bytes, at its newline or at the end of a last line without newline
(`Grep.lineMatches`), and the lines are printed by their numbers.

## Shape of the proof

* A matcher that finds the first of the preferred matches (`Matcher.FindsFirst`) finds it on the line where the
  search stands if that line has one, and else behind that line (`Matcher.first_of_isLine`).
* So from the beginning of a line on, the hits are the lines with a match (`Grep.map_line_hitsFrom`, by
  induction on the lines that are left).
* The number printed is kept as the number of newlines up to the hit before, plus one, which is the number of
  lines begun (`Grep.text_numbered`, by induction on the hits).
-/

namespace TrigramGrep

open Bytes (newline IsLine)

/-! ## Matchers that find the first match -/

namespace Matcher

variable {find : Matcher} {preferred : Buffer → Nat → Option Nat}

/-- The end of the first match in a range of starts, where `preferred` tells the end of the match at a start, if
there is one. -/
def firstIn (preferred : Buffer → Nat → Option Nat) (buffer : Buffer) (start count : Nat) : Option Span :=
  (List.range' start count).findSome? fun start => (preferred buffer start).map (Span.mk start)

/-- The match with the least start at or after a position. -/
def first (preferred : Buffer → Nat → Option Nat) : Matcher := fun buffer position =>
  firstIn preferred buffer position (buffer.size + 1 - position)

/-- A matcher gives the preferred match at the least start from a position of the buffer on. -/
def FindsFirst (find : Matcher) (preferred : Buffer → Nat → Option Nat) : Prop :=
  ∀ buffer position, position ≤ buffer.size → find buffer position = first preferred buffer position

theorem findsFirst_first (preferred : Buffer → Nat → Option Nat) : (first preferred).FindsFirst preferred :=
  fun _ _ _ => rfl

theorem firstIn_add (preferred : Buffer → Nat → Option Nat) (buffer : Buffer) (start a b : Nat) :
    firstIn preferred buffer start (a + b) =
      (firstIn preferred buffer start a).or (firstIn preferred buffer (start + a) b) := by
  rw [firstIn, ← List.range'_append_1, List.findSome?_append]
  rfl

theorem firstIn_eq_none {buffer : Buffer} {start count : Nat} :
    firstIn preferred buffer start count = none ↔
      (List.range' start count).any (fun start => (preferred buffer start).isSome) = false := by
  simp [firstIn]

theorem start_of_firstIn {buffer : Buffer} {start count : Nat} {found : Span}
    (h : firstIn preferred buffer start count = some found) :
    start ≤ found.start ∧ found.start < start + count := by
  obtain ⟨at', hmem, hfound⟩ := List.exists_of_findSome?_eq_some h
  obtain ⟨stop, -, rfl⟩ := Option.map_eq_some_iff.mp hfound
  exact List.mem_range'_1.mp hmem

/-- The first match from the beginning of a line on is one that starts on the line, or else the first one from the
next line on. -/
theorem first_of_isLine {text before line behind : Bytes} (h : IsLine text before line behind) :
    first preferred text.toArray before.length =
      (firstIn preferred text.toArray before.length (line.length + 1)).or
        (firstIn preferred text.toArray (before.length + line.length + 1) behind.length) := by
  have hlength := h.length_eq
  have hcount : text.toArray.size + 1 - before.length = (line.length + 1) + behind.length := by
    rw [List.size_toArray]
    omega
  rw [first, hcount, firstIn_add, Nat.add_assoc]

end Matcher

namespace Grep

variable {find : Matcher} {preferred : Buffer → Nat → Option Nat}

/-! ## Lines with a match -/

/-- The range of a line of a text by its number, counted from zero, without its newline. -/
def lineSpan (text : Bytes) (number : Nat) : Span :=
  let start := (text.lines.take number).flatten.length
  ⟨start, start + (text.lineAt number).length⟩

/-- Whether a match starts on a line, at its newline or at the end of the text counting for the line that ends
there. -/
def lineMatches (preferred : Buffer → Nat → Option Nat) (text : Bytes) (number : Nat) : Bool :=
  (List.range' (lineSpan text number).start ((text.lineAt number).length + 1)).any fun start =>
    (preferred text.toArray start).isSome

/-- The numbers of the lines with a match among `count` lines from `number` on. -/
def matchingFrom (preferred : Buffer → Nat → Option Nat) (text : Bytes) (number count : Nat) : List Nat :=
  (List.range' number count).filter (lineMatches preferred text)

/-- The numbers of the lines of a text with a match, counted from zero. -/
def matchingLines (preferred : Buffer → Nat → Option Nat) (text : Bytes) : List Nat :=
  matchingFrom preferred text 0 text.lines.length

theorem matchingFrom_succ (preferred : Buffer → Nat → Option Nat) (text : Bytes) (number count : Nat) :
    matchingFrom preferred text number (count + 1) =
      (if lineMatches preferred text number then [number] else []) ++
        matchingFrom preferred text (number + 1) count := by
  rw [matchingFrom, List.range'_succ, List.filter_cons]
  split <;> rfl

/-- A line is listed if a match starts between its beginning and its end. -/
theorem mem_matchingLines {text : Bytes} {number : Nat} :
    number ∈ matchingLines preferred text ↔ number < text.lines.length ∧
      ∃ start, (lineSpan text number).start ≤ start ∧ start ≤ (lineSpan text number).stop ∧
        (preferred text.toArray start).isSome = true := by
  have hrange : ∀ start, start ∈ List.range' (lineSpan text number).start ((text.lineAt number).length + 1) ↔
      (lineSpan text number).start ≤ start ∧ start ≤ (lineSpan text number).stop := by
    intro start
    rw [List.mem_range'_1, lineSpan, ← Nat.add_assoc, Nat.lt_succ_iff]
  simp only [matchingLines, matchingFrom, List.mem_filter, List.mem_range'_1, lineMatches, List.any_eq_true,
    hrange, and_assoc]
  simp

/-- The lines are listed once each and in order. -/
theorem pairwise_lt_matchingLines (preferred : Buffer → Nat → Option Nat) (text : Bytes) :
    (matchingLines preferred text).Pairwise (· < ·) :=
  List.Pairwise.filter _ List.pairwise_lt_range'

section

variable {text before line behind : Bytes}

theorem lineSpan_of_isLine (h : IsLine text before line behind) :
    lineSpan text before.lines.length = ⟨before.length, before.length + line.length⟩ := by
  rw [lineSpan, h.take_lines, Bytes.flatten_lines, h.lineAt_eq]

theorem lineMatches_of_isLine (h : IsLine text before line behind) :
    lineMatches preferred text before.lines.length =
      (Matcher.firstIn preferred text.toArray before.length (line.length + 1)).isSome := by
  rw [lineMatches, lineSpan_of_isLine h, h.lineAt_eq]
  cases hfirst : Matcher.firstIn preferred text.toArray before.length (line.length + 1) with
  | none => exact Matcher.firstIn_eq_none.mp hfirst
  | some found =>
    rw [Option.isSome_some, ← Bool.not_eq_false, ← Matcher.firstIn_eq_none, hfirst]
    exact Option.some_ne_none found

/-! ## Hits -/

/-- A line with a match is the next hit. -/
theorem nextHit_of_lineMatches (hfind : find.FindsFirst preferred) (h : IsLine text before line behind)
    (hmatches : lineMatches preferred text before.lines.length = true) :
    ∃ hit, nextHit find text.toArray before.length = some hit ∧
      hit.line = lineSpan text before.lines.length := by
  have hlength := h.length_eq
  have hsize : before.length ≤ text.toArray.size := by
    rw [List.size_toArray]
    omega
  rw [lineMatches_of_isLine h] at hmatches
  obtain ⟨found, hfirst⟩ := Option.isSome_iff_exists.mp hmatches
  obtain ⟨hlow, hhigh⟩ := Matcher.start_of_firstIn hfirst
  have hfound : find text.toArray before.length = some found := by
    rw [hfind _ _ hsize, Matcher.first_of_isLine h, hfirst]
    rfl
  -- the match is not at the end of a text that ends in a newline
  have hend : ¬ (found.start = text.toArray.size && Buffer.isClosed text.toArray) = true := by
    rcases h.ended with ⟨rest, rfl⟩ | ⟨rfl, -⟩
    · rw [List.length_cons] at hlength
      have hne : found.start ≠ text.length := by omega
      simp [hne]
    · simp [h.isClosed_eq_false]
  refine ⟨⟨lineSpan text before.lines.length, found⟩, ?_, rfl⟩
  rw [nextHit, if_pos hsize, hfound]
  dsimp only
  rw [if_neg hend, h.lineStart_eq hlow (by omega), h.lineStop_eq hlow (by omega), lineSpan_of_isLine h]

/-- Behind a line without a match, the search goes on with the next line. -/
theorem nextHit_of_not_lineMatches (hfind : find.FindsFirst preferred) (h : IsLine text before line behind)
    (hmatches : lineMatches preferred text before.lines.length = false) :
    nextHit find text.toArray before.length =
      nextHit find text.toArray (before.length + line.length + 1) := by
  have hlength := h.length_eq
  rw [lineMatches_of_isLine h, Option.isSome_eq_false_iff, Option.isNone_iff_eq_none] at hmatches
  have hsize : text.toArray.size = text.length := List.size_toArray
  have hhere : find text.toArray before.length =
      Matcher.firstIn preferred text.toArray (before.length + line.length + 1) behind.length := by
    rw [hfind _ _ (by omega), Matcher.first_of_isLine h, hmatches, Option.none_or]
  rcases h.ended with ⟨rest, rfl⟩ | ⟨rfl, -⟩
  · rw [List.length_cons] at hlength
    have hnext : find text.toArray (before.length + line.length + 1) = find text.toArray before.length := by
      rw [hhere, hfind _ _ (by omega), Matcher.first, List.length_cons]
      congr 1
      omega
    rw [nextHit, nextHit, if_pos (by omega), if_pos (by omega), hnext]
  · rw [List.length_nil] at hlength
    have hnone : find text.toArray before.length = none := hhere
    rw [nextHit, nextHit, if_pos (by omega), if_neg (by omega), hnone]

end

/-- At the end of a text that ends in a newline there is no hit. -/
theorem nextHit_length (hfind : find.FindsFirst preferred) {text : Bytes} (h : text.Closed) :
    nextHit find text.toArray text.length = none := by
  have hsize : text.toArray.size = text.length := List.size_toArray
  have hclosed : Buffer.isClosed text.toArray = true := by
    rcases List.eq_nil_or_concat text with rfl | ⟨before, byte, rfl⟩
    · rfl
    · have hbyte : byte = newline := h byte (by simp)
      simp [Buffer.isClosed, hbyte]
  rw [nextHit, if_pos (Nat.le_of_eq hsize.symm), hfind _ _ (Nat.le_of_eq hsize.symm), Matcher.first, hsize,
    Nat.add_sub_cancel_left]
  cases hfound : Matcher.firstIn preferred text.toArray text.length 1 with
  | none => rfl
  | some found =>
    obtain ⟨hlow, hhigh⟩ := Matcher.start_of_firstIn hfound
    have hstart : found.start = text.length := by omega
    simp [hstart, hclosed]

/-- From the beginning of a line on, the hits are that line if it has a match, and the hits from the next line
on. -/
theorem map_line_hitsFrom_succ (hfind : find.FindsFirst preferred) {text before line behind : Bytes}
    (h : IsLine text before line behind) (fuel : Nat) :
    ∃ left, fuel ≤ left ∧ (hitsFrom find text.toArray (fuel + 1) before.length).map Hit.line =
      ((if lineMatches preferred text before.lines.length then [before.lines.length] else []).map
          (lineSpan text)) ++
        (hitsFrom find text.toArray left (before.length + line.length + 1)).map Hit.line := by
  cases hmatches : lineMatches preferred text before.lines.length with
  | true =>
    obtain ⟨hit, hnext, hline⟩ := nextHit_of_lineMatches hfind h hmatches
    refine ⟨fuel, Nat.le_refl fuel, ?_⟩
    rw [hitsFrom, hnext]
    dsimp only
    rw [List.map_cons, hline, lineSpan_of_isLine h]
    simp [lineSpan_of_isLine h]
  | false =>
    refine ⟨fuel + 1, Nat.le_succ fuel, ?_⟩
    rw [hitsFrom, nextHit_of_not_lineMatches hfind h hmatches]
    rfl

/-- From the beginning of a line on, the hits are the lines with a match. -/
theorem map_line_hitsFrom (hfind : find.FindsFirst preferred) (rest : Bytes) :
    ∀ {before : Bytes} {fuel : Nat}, before.Closed → rest.length < fuel →
      (hitsFrom find (before ++ rest).toArray fuel before.length).map Hit.line =
        (matchingFrom preferred (before ++ rest) before.lines.length (Bytes.lines rest).length).map
          (lineSpan (before ++ rest)) := by
  induction rest using Bytes.induction_lines with
  | nil =>
    intro before fuel hbefore hfuel
    obtain ⟨fuel, rfl⟩ := Nat.exists_eq_succ_of_ne_zero (Nat.ne_zero_of_lt hfuel)
    rw [List.append_nil, hitsFrom, nextHit_length hfind hbefore]
    rfl
  | last line hne hline =>
    intro before fuel hbefore hfuel
    have h : IsLine (before ++ line) before line [] :=
      ⟨(List.append_nil _).symm, hbefore, hline, .inr ⟨rfl, hne⟩⟩
    obtain ⟨fuel, rfl⟩ := Nat.exists_eq_succ_of_ne_zero (Nat.ne_zero_of_lt hfuel)
    obtain ⟨left, -, hhits⟩ := map_line_hitsFrom_succ hfind h fuel
    rw [hhits, hitsFrom_of_lt (by simp), Bytes.lines_of_notMem hne hline, List.length_singleton,
      matchingFrom_succ]
    simp [matchingFrom]
  | cons line rest hline ih =>
    intro before fuel hbefore hfuel
    have h : IsLine (before ++ (line ++ newline :: rest)) before line (newline :: rest) :=
      ⟨(List.append_assoc _ _ _).symm, hbefore, hline, .inl ⟨rest, rfl⟩⟩
    obtain ⟨fuel, rfl⟩ := Nat.exists_eq_succ_of_ne_zero (Nat.ne_zero_of_lt hfuel)
    obtain ⟨left, hleft, hhits⟩ := map_line_hitsFrom_succ hfind h fuel
    -- the finished lines are one more now
    have hclosed : Bytes.Closed (before ++ (line ++ [newline])) := by
      rw [← List.append_assoc]
      exact Bytes.closed_append_newline _
    have htext : before ++ (line ++ newline :: rest) = before ++ (line ++ [newline]) ++ rest := by simp
    have hposition : before.length + line.length + 1 = (before ++ (line ++ [newline])).length := by
      simp [Nat.add_assoc]
    have hnumber : before.lines.length + 1 = (Bytes.lines (before ++ (line ++ [newline]))).length := by
      rw [Bytes.lines_append hbefore, Bytes.lines_append_newline hline, List.length_append,
        List.length_singleton]
    have hfuel' : rest.length < left := by
      rw [List.length_append, List.length_cons] at hfuel
      omega
    rw [hhits, Bytes.lines_append_newline_cons hline, List.length_cons, matchingFrom_succ, List.map_append,
      htext, hposition, ih hclosed hfuel', hnumber]

/-- **The hits are the lines with a match.** -/
theorem map_line_hits (hfind : find.FindsFirst preferred) (text : Bytes) :
    (hits find text.toArray).map Hit.line = (matchingLines preferred text).map (lineSpan text) := by
  rw [hits, List.size_toArray]
  exact map_line_hitsFrom hfind text Bytes.closed_nil (Nat.lt_succ_self _)

/-! ## Printing -/

/-- What is printed of a line, its number counted from one. -/
def printedLine (options : Options) (name : String) (number : Nat) (line : Bytes) : Bytes :=
  (if options.noFileName then [] else Bytes.ofString name ++ Bytes.ofString ":") ++
    (if options.lineNumbers then Output.decimal number ++ Bytes.ofString ":" else []) ++ line ++ [newline]

theorem text_strokes (options : Options) (name : String) (line : FoundLine) :
    Output.text (line.strokes options name) = printedLine options name line.number line.text := by
  rw [FoundLine.strokes, Output.text_matchLine, printedLine]
  cases options.noFileName <;> cases options.lineNumbers <;>
    simp [Output.nameLabel, Output.numberLabel, Stroke.ofPlain]

/-- Later lines begin later. -/
theorem start_lineSpan_le (text : Bytes) {a b : Nat} (h : a ≤ b) :
    (lineSpan text a).start ≤ (lineSpan text b).start :=
  ((List.take_sublist_take_left h).flatten).length_le

theorem bytesOf_lineSpan {text : Bytes} {number : Nat} (h : number < text.lines.length) :
    bytesOf text.toArray (lineSpan text number) = text.lineAt number := by
  obtain ⟨before, line, behind, hline, rfl⟩ := Bytes.exists_isLine h
  rw [bytesOf, lineSpan_of_isLine hline, hline.extract_eq, hline.lineAt_eq]

/-- As many newlines stand before a line as lines. -/
theorem count_take_lineSpan {text : Bytes} {number : Nat} (h : number < text.lines.length) :
    (text.take (lineSpan text number).start).count newline = number := by
  obtain ⟨before, line, behind, hline, rfl⟩ := Bytes.exists_isLine h
  rw [lineSpan_of_isLine hline]
  exact hline.count_take

/-- Counting newlines may stop at any position and go on from there. -/
theorem count_take_add_newlines (text : Bytes) {counted start : Nat} (h : counted ≤ start) :
    (text.take counted).count newline + Buffer.newlines text.toArray counted (start - counted) =
      (text.take start).count newline := by
  rw [Buffer.newlines_toArray, ← List.count_append, ← List.take_add, Nat.add_sub_cancel' h]

/-- Hits on lines in ascending order are printed with their numbers. -/
theorem text_numbered (find : Matcher) (options : Options) (name : String) {text : Bytes} :
    ∀ {hits : List Hit} {numbers : List Nat} {counted number : Nat},
      hits.map Hit.line = numbers.map (lineSpan text) → numbers.Pairwise (· < ·) →
      (∀ n ∈ numbers, n < text.lines.length ∧ counted ≤ (lineSpan text n).start) →
      number = (text.take counted).count newline + 1 →
      Output.text ((numbered find text.toArray hits counted number).flatMap (FoundLine.strokes options name)) =
        numbers.flatMap fun n => printedLine options name (n + 1) (text.lineAt n) := by
  intro hits
  induction hits with
  | nil =>
    intro numbers counted number hhits _ _ _
    rw [List.map_nil, eq_comm, List.map_eq_nil_iff] at hhits
    rw [hhits]
    rfl
  | cons hit hits ih =>
    intro numbers counted number hhits hsorted hlines hnumber
    obtain ⟨n, numbers, rfl, hline, hrest⟩ := List.map_eq_cons_iff.mp hhits.symm
    obtain ⟨hn, hcounted⟩ := hlines n List.mem_cons_self
    obtain ⟨hfirst, hsorted⟩ := List.pairwise_cons.mp hsorted
    have hnext : number + Buffer.newlines text.toArray counted (hit.line.start - counted) = n + 1 := by
      have hcount := count_take_add_newlines text hcounted
      rw [count_take_lineSpan hn, hline] at hcount
      omega
    have hlater : ∀ m ∈ numbers, m < text.lines.length ∧
        (lineSpan text n).start ≤ (lineSpan text m).start := by
      intro m hm
      have hm' := (hlines m (List.mem_cons_of_mem n hm)).1
      exact ⟨hm', start_lineSpan_le text (Nat.le_of_lt (hfirst m hm))⟩
    have hbegun : n + 1 = (text.take (lineSpan text n).start).count newline + 1 := by
      rw [count_take_lineSpan hn]
    rw [numbered, hnext, ← hline, List.flatMap_cons, Output.text_append, text_strokes, bytesOf_lineSpan hn,
      List.flatMap_cons, ih hrest.symm hsorted hlater hbegun]

/-- **A search prints the lines with a match.** For a matcher that gives the preferred match at the least start,
without counting and not for names only, a search prints exactly the lines of the view on which a match starts,
each once and in ascending order.  Each is printed as the line of the content with its number, cut to the limit, and
its number, if shown, is the one it has in the content.  The answer tells whether there is such a line. -/
theorem text_search {preferred : Buffer → Nat → Option Nat} {find : Matcher}
    (hfind : find.FindsFirst preferred) (options : Options) (hcount : options.count = false)
    (hnames : options.namesOnly = false) (limit : Nat) (name : String) (content : Bytes) :
    let view := View.view content limit
    let result := search find options limit name content
    Output.text result.1 = ((matchingLines preferred view).flatMap fun number =>
        printedLine options name (number + 1) (View.cut limit (content.lineAt number))) ∧
      result.2 = !(matchingLines preferred view).isEmpty ∧
      view.lines.length = content.lines.length := by
  intro view result
  have hhits := map_line_hits hfind view
  have hprinted := text_numbered find options name hhits (pairwise_lt_matchingLines preferred view)
    (fun n hn => ⟨(mem_matchingLines.mp hn).1, Nat.zero_le _⟩) rfl
  simp only [view, View.lineAt_view] at hprinted
  have hresult : result = _ := search_eq find options limit name content
  have hempty : (matchingLines preferred view).isEmpty = (hits find view.toArray).isEmpty := by
    rw [← List.isEmpty_map (f := lineSpan view), ← hhits, List.isEmpty_map]
  rw [hresult, ← hprinted, hempty, hnames, hcount, length_foundLines]
  refine ⟨rfl, ?_, View.length_lines_view content limit⟩
  show decide (0 < (hits find view.toArray).length) = _
  cases hits find view.toArray <;> simp

/-- The byte `b` and the end of a text are matches: the end is one on the last line, which has no newline, and the
cut leaves nothing to be found on the line before. -/
theorem text_search_last_line :
    let preferred : Buffer → Nat → Option Nat := fun buffer start =>
      if buffer[start]? = some 98 then some (start + 1) else if start = buffer.size then some start else none
    let result := search (Matcher.first preferred) { lineNumbers := true } 2 "f" [97, 98, 10, 97, 99, 98, 10, 99]
    Output.text result.1 = Bytes.ofString "f:1:ab\nf:3:c\n" ∧ result.2 = true := by
  intro preferred result
  obtain ⟨htext, hanswer, -⟩ := text_search (Matcher.findsFirst_first preferred)
    { lineNumbers := true } rfl rfl 2 "f" [97, 98, 10, 97, 99, 98, 10, 99]
  have hlines : matchingLines preferred (View.view [97, 98, 10, 97, 99, 98, 10, 99] 2) = [0, 2] := by
    cbv
  rw [hlines] at htext hanswer
  exact ⟨htext.trans (by cbv), hanswer⟩

end Grep

end TrigramGrep
