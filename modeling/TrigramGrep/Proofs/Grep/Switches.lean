import TrigramGrep.Grep.Files
import TrigramGrep.Proofs.Bytes
import TrigramGrep.Proofs.Grep.Hits
import TrigramGrep.Proofs.Output

/-!
# The switches only decide what is shown

A search finds the same lines under all switches.  What is printed is the list of these lines, each behind its
labels, or their number, or the name of the file; and whether there is one is the answer in any case.

How many lines are printed can be read off the output: each ends in a stroke of its own, and no other stroke is
like it, since a line has no newline inside (`Buffer.newline_notMem_line`, whatever matches are reported).
-/

namespace TrigramGrep

open Bytes (newline)

/-! ## Lines of a buffer -/

namespace Buffer

variable {buffer : Buffer} {position i : Nat}

/-- There is no newline between the beginning of a line and a position on it. -/
theorem newlineAt_of_lineStart_le (hlow : lineStart buffer position ≤ i) (hhigh : i < position) :
    newlineAt buffer i = false := by
  induction position with
  | zero => exact absurd hhigh (Nat.not_lt_zero i)
  | succ position ih =>
    rw [lineStart] at hlow
    split at hlow
    · omega
    · next hnewline =>
      rcases Nat.lt_succ_iff_lt_or_eq.mp hhigh with hlt | rfl
      · exact ih hlow hlt
      · exact Bool.eq_false_iff.mpr hnewline

/-- There is none between a position on a line and the end of the line. -/
theorem newlineAt_of_lt_lineStop (hlow : position ≤ i) (hhigh : i < lineStop buffer position) :
    newlineAt buffer i = false := by
  fun_induction lineStop buffer position with
  | case1 position hlt hnewline => omega
  | case2 position hlt hnewline ih =>
    rcases Nat.lt_or_eq_of_le hlow with hless | rfl
    · exact ih hless hhigh
    · exact Bool.eq_false_iff.mpr hnewline
  | case3 position hle => omega

/-- The line around a position holds no newline. -/
theorem newline_notMem_line (buffer : Buffer) (position : Nat) :
    newline ∉ (buffer.extract (lineStart buffer position) (lineStop buffer position)).toList := by
  intro hmem
  obtain ⟨i, hi, heq⟩ := Array.getElem_of_mem (Array.mem_toList_iff.mp hmem)
  rw [Array.size_extract] at hi
  rw [Array.getElem_extract] at heq
  have hat : newlineAt buffer (lineStart buffer position + i) = true := by
    rw [newlineAt, Array.getElem?_eq_getElem (by omega), heq]
    exact beq_self_eq_true _
  have hnone : newlineAt buffer (lineStart buffer position + i) = false := by
    rcases Nat.lt_or_ge (lineStart buffer position + i) position with hlt | hge
    · exact newlineAt_of_lineStart_le (Nat.le_add_right _ _) hlt
    · exact newlineAt_of_lt_lineStop hge (by omega)
  exact absurd (hat.symm.trans hnone) (by decide)

end Buffer

/-! ## Printed lines -/

namespace Output

/-- The number of lines that are printed: that of the strokes that end one.  A name that is shown may hold newlines
of its own. -/
def lineCount (strokes : List Stroke) : Nat :=
  strokes.count lineEnd

theorem lineCount_append (a b : List Stroke) : lineCount (a ++ b) = lineCount a + lineCount b :=
  List.count_append

/-- A newline that is printed stands in the text. -/
theorem newline_mem_text {strokes : List Stroke} (h : lineEnd ∈ strokes) : newline ∈ text strokes :=
  List.mem_flatMap.mpr ⟨lineEnd, h, List.mem_singleton.mpr rfl⟩

/-- A label is no line. -/
theorem lineCount_label {style : Style} (hstyle : style ≠ .plain) (bytes : Bytes) :
    lineCount [⟨style, bytes⟩, .ofPlain (Bytes.ofString ":")] = 0 := by
  have hcolon : Bytes.ofString ":" ≠ [newline] := by
    rw [Bytes.ofString_eq_flatMap]
    decide
  refine List.count_eq_zero_of_not_mem ?_
  simp [lineEnd, Stroke.ofPlain, hstyle.symm, hcolon.symm]

/-- A line without newline is printed as one line. -/
theorem lineCount_matchLine (name : Option String) (number : Option Nat) {line : Bytes} (h : newline ∉ line)
    (spans : List Span) : lineCount (matchLine name number line spans) = 1 := by
  have hname : lineCount (nameLabel name) = 0 := by
    cases name with
    | none => rfl
    | some name => exact lineCount_label (by decide) _
  have hnumber : lineCount (numberLabel number) = 0 := by
    cases number with
    | none => rfl
    | some number => exact lineCount_label (by decide) _
  have hline : lineCount (highlight line 0 spans) = 0 := by
    refine List.count_eq_zero_of_not_mem fun hmem => h ?_
    simpa using newline_mem_text hmem
  rw [matchLine, lineCount_append, lineCount_append, lineCount_append, hname, hnumber, hline]
  rfl

end Output

namespace Grep

variable {find : Matcher}

/-! ## Lines that are found -/

/-- No line that is found holds a newline. -/
theorem newline_notMem_numbered {buffer : Buffer} {hits : List Hit} {counted number : Nat}
    (hhits : ∀ hit ∈ hits, ∃ start, nextHit find buffer start = some hit) :
    ∀ line ∈ numbered find buffer hits counted number, newline ∉ line.text := by
  induction hits generalizing counted number with
  | nil => exact fun line hline => absurd hline List.not_mem_nil
  | cons hit hits ih =>
    obtain ⟨⟨start, hhit⟩, hrest⟩ := List.forall_mem_cons.mp hhits
    intro line hline
    rcases List.mem_cons.mp hline with rfl | hline
    · rw [line_of_nextHit hhit]
      exact buffer.newline_notMem_line hit.first.start
    · exact ih hrest line hline

theorem newline_notMem_foundLines (find : Matcher) (maxLineLength : Nat) (content : Bytes) :
    ∀ line ∈ foundLines find maxLineLength content, newline ∉ line.text :=
  newline_notMem_numbered fun _ hhit => exists_nextHit_of_mem_hitsFrom hhit

/-! ## What is printed of them -/

/-- Lines without newlines inside are printed as as many lines. -/
theorem lineCount_flatMap_strokes (options : Options) (name : String) {lines : List FoundLine}
    (h : ∀ line ∈ lines, newline ∉ line.text) :
    Output.lineCount (lines.flatMap (FoundLine.strokes options name)) = lines.length := by
  induction lines with
  | nil => rfl
  | cons line lines ih =>
    obtain ⟨hline, hlines⟩ := List.forall_mem_cons.mp h
    rw [List.flatMap_cons, Output.lineCount_append, ih hlines, FoundLine.strokes,
      Output.lineCount_matchLine _ _ hline, List.length_cons, Nat.add_comm]

/-- **Output switches only reformat.** A search finds, in a content under a cut, the same lines for all switches and
names; as many are printed with all switches off.  Whatever was found before, the answer afterwards is that there
is a match if there was one or a line is found now.  For names only, the name is printed on a line of its own if a
line is found, whether lines are counted or not; where lines are counted, their number is, on one line, if a line is
found; and otherwise each line is printed, in order, with its bytes and its spans, behind the labels that are
shown. -/
theorem search_switches (find : Matcher) (maxLineLength : Nat) (content : Bytes) :
    ∃ lines : List FoundLine, (∀ line ∈ lines, newline ∉ line.text) ∧
      ∀ (name : String) (options : Options) (before : Findings),
        let count := Output.lineCount (search find {} maxLineLength name content).1
        let shown := if options.noFileName then none else some name
        let after := before.append (searchContent find options maxLineLength name content)
        count = lines.length ∧
          after.matched = (before.matched || decide (0 < count)) ∧
          after.strokes = before.strokes ++
            if options.namesOnly then if 0 < count then Output.nameLine name else []
            else if options.count then if 0 < count then Output.countLine shown count else []
            else lines.flatMap fun line =>
              Output.matchLine shown (if options.lineNumbers then some line.number else none) line.text
                line.spans := by
  have hlines := newline_notMem_foundLines find maxLineLength content
  refine ⟨foundLines find maxLineLength content, hlines, fun name options before => ?_⟩
  intro count shown after
  have hcount : count = (foundLines find maxLineLength content).length := by
    rw [← lineCount_flatMap_strokes {} name hlines]
    exact congrArg (fun found => Output.lineCount found.1) (search_eq find {} maxLineLength name content)
  refine ⟨hcount, ?_, ?_⟩
  · rw [hcount]
    exact congrArg (fun found => before.matched || found.2) (search_eq find options maxLineLength name content)
  · rw [hcount]
    exact congrArg (fun found => before.strokes ++ found.1) (search_eq find options maxLineLength name content)

end Grep

end TrigramGrep
