import TrigramGrep.Output

/-!
# The text of what is printed

Styles add nothing to the text of a sequence of strokes.  The text of a line does not depend on its spans
either: wherever they are, the strokes between them and those that they highlight join to the line again.
-/

namespace TrigramGrep.Output

/-- A sink without colour gets the text. -/
theorem render_false (strokes : List Stroke) : render false strokes = text strokes := rfl

@[simp] theorem text_nil : text [] = [] := rfl

@[simp] theorem text_cons (stroke : Stroke) (strokes : List Stroke) :
    text (stroke :: strokes) = stroke.bytes ++ text strokes := rfl

@[simp] theorem text_append (a b : List Stroke) : text (a ++ b) = text a ++ text b :=
  List.flatMap_append

/-- The part of a line between two positions, and what follows it. -/
theorem drop_take_append_drop (line : Bytes) {start stop : Nat} (h : start ≤ stop) :
    (line.take stop).drop start ++ line.drop stop = line.drop start := by
  obtain ⟨count, rfl⟩ := Nat.exists_eq_add_of_le h
  rw [List.drop_take, Nat.add_sub_cancel_left, ← List.drop_drop, List.take_append_drop]

/-- The text of a line does not depend on its spans. -/
@[simp] theorem text_highlight (line : Bytes) (position : Nat) (spans : List Span) :
    text (highlight line position spans) = line.drop position := by
  induction spans generalizing position with
  | nil => simp [highlight, Stroke.ofPlain]
  | cons span spans ih =>
    have hstart : position ≤ clamp span.start position line.length := Nat.le_max_left _ _
    have hstop : ∀ start, start ≤ clamp span.stop start line.length := fun _ => Nat.le_max_left _ _
    rw [highlight]
    generalize clamp span.start position line.length = start at hstart hstop ⊢
    specialize hstop start
    generalize clamp span.stop start line.length = stop at hstop ⊢
    have hspan : text (if start < stop then [⟨.highlighted, (line.take stop).drop start⟩] else []) ++
        line.drop stop = line.drop start := by
      rcases Nat.lt_or_eq_of_le hstop with hlt | heq
      · rw [if_pos hlt, text_cons, text_nil, List.append_nil, drop_take_append_drop line hstop]
      · rw [if_neg (Nat.not_lt_of_le (Nat.le_of_eq heq.symm)), heq]
        rfl
    rw [text_cons, text_append, ih, hspan]
    exact drop_take_append_drop line hstart

/-- The text of a matching line: the labels that are shown, the line and a newline. -/
theorem text_matchLine (name : Option String) (number : Option Nat) (line : Bytes) (spans : List Span) :
    text (matchLine name number line spans) =
      text (nameLabel name) ++ text (numberLabel number) ++ line ++ [Bytes.newline] := by
  rw [matchLine, text_append, text_append, text_append, text_highlight, List.drop_zero]
  rfl

end TrigramGrep.Output
