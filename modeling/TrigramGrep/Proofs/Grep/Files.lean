import TrigramGrep.Grep.Files

/-!
# What is printed to a file

A search that prints to a file hands over what it finds piece by piece, and the pieces wait until there is too much of
them.  What has gone to the file and what waits are together the text of all that has been found so far
(`Search.Printed`); each file that is searched keeps this (`Search.Printed.step`).  So nothing is lost or moved, however
the pieces went: when nothing waits any more, the file has the text of all findings (`Search.content_flush`).
-/

namespace TrigramGrep

namespace Output.Buffered

/-- All that was printed: what has gone, and what waits behind it. -/
def all (b : Buffered) : Bytes := bytesOf (b.waiting ++ b.gone)

/-- A piece is printed behind all others, whatever goes to the file on this occasion. -/
theorem all_put (b : Buffered) (piece : Bytes) : (b.put piece).all = b.all ++ piece := by
  have hflush (b : Buffered) : b.flush.all = b.all := rfl
  have hwaiting (b : Buffered) : ({ b with waiting := piece :: b.waiting } : Buffered).all = b.all ++ piece := by
    simp [all, bytesOf]
  unfold put
  split <;> split <;> simp [hwaiting, hflush]

/-- So strokes are printed as their text. -/
theorem all_putAll (b : Buffered) (strokes : List Stroke) : (b.putAll strokes).all = b.all ++ text strokes := by
  induction strokes generalizing b with
  | nil => simp [putAll, text]
  | cons stroke strokes ih =>
    have hrest := ih (b.put stroke.bytes)
    simp only [putAll, List.foldl_cons, text, List.flatMap_cons] at hrest ⊢
    rw [hrest, all_put, List.append_assoc]

end Output.Buffered

namespace Grep.Search

variable {find : Matcher} {options : Options} {maxLineLength : Nat} {path : Path} {s : Search}

/-- All that has been found has been printed. -/
def Printed (s : Search) : Prop := s.output.all = Output.text s.findings.strokes

/-- One more file is searched, and what is found in it is printed behind all before. -/
theorem Printed.step (h : s.Printed) (name : String) : (s.step find options maxLineLength path name).Printed := by
  rw [Printed] at h ⊢
  unfold Search.step
  dsimp only [Findings.append]
  rw [Output.Buffered.all_putAll, h, Output.text, Output.text, Output.text, List.flatMap_append]

theorem printed_foldl (h : s.Printed) (names : List String) :
    (names.foldl (Search.step find options maxLineLength path) s).Printed := by
  induction names generalizing s with
  | nil => exact h
  | cons name names ih => exact ih (h.step name)

/-- **What is found is what the file gets.**  When all files have been searched and nothing waits any more, the file has
the text of the findings. -/
theorem content_flush (find : Matcher) (options : Options) (maxLineLength : Nat) (path : Path) (fs : FileSystem)
    (names : List String) :
    (names.foldl (Search.step find options maxLineLength path) { files := fs }).output.flush.content =
      Output.text (searchFilesInto find options maxLineLength path fs names).strokes := by
  have hnothing : Printed { files := fs } := rfl
  exact printed_foldl hnothing names

end Grep.Search

end TrigramGrep
