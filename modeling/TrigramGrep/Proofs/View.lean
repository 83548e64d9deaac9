import TrigramGrep.Proofs.Text.Lines

/-!
# Cutting a text once and twice

A text that is split at its newlines, with an empty piece behind a final one, is the join of its pieces, so a
view is known by its pieces.  They are those of the text, each cut to the limit (`View.splitOn_view`), and the
scan for long lines only tells whether there is anything to cut.  Two cuts one after the other leave of every
piece what the tighter one leaves (`View.view_view`): what was cut for the index is found as it is by a search
that cuts again.
-/

namespace TrigramGrep.View

open Bytes (newline)

/-- Lines that are cut one by one make the pieces of the text, each cut. -/
theorem splitOn_flatMap_cutLine (limit : Nat) (text : Bytes) :
    (text.lines.flatMap (cutLine limit)).splitOn newline =
      (text.splitOn newline).map (List.take limit) := by
  have hcut : ∀ {line : Bytes}, newline ∉ line → newline ∉ line.take limit :=
    fun hline hmem => hline (List.mem_of_mem_take hmem)
  induction text using Bytes.induction_lines with
  | nil => simp
  | last line hne hline =>
    rw [Bytes.lines_of_notMem hne hline, List.flatMap_singleton, cutLine_of_notMem limit hline,
      List.splitOn_eq_singleton (hcut hline), List.splitOn_eq_singleton hline, List.map_singleton]
  | cons line rest hline ih =>
    rw [Bytes.lines_append_newline_cons hline, List.flatMap_cons, cutLine_append_newline, List.append_assoc,
      List.singleton_append, List.splitOn_append_cons_self_of_not_mem (hcut hline), ih,
      List.splitOn_append_cons_self_of_not_mem hline, List.map_cons]

/-- The pieces of the view are those of the text, each cut to the limit. -/
theorem splitOn_view (text : Bytes) (limit : Nat) :
    (view text limit).splitOn newline = (text.splitOn newline).map (cut limit) := by
  by_cases hlimit : limit = 0
  · have hcut : cut 0 = id := funext fun line => if_pos rfl
    rw [hlimit, view_zero, hcut, List.map_id]
  · have hcut : cut limit = List.take limit := funext fun line => if_neg hlimit
    rw [view_eq_flatMap hlimit, splitOn_flatMap_cutLine, hcut]

/-! ## Two cuts -/

/-- The limit that two limits make one after the other; zero is no limit. -/
def tighter (a b : Nat) : Nat :=
  if a = 0 then b else if b = 0 then a else min a b

theorem tighter_self (a : Nat) : tighter a a = a := by
  by_cases h : a = 0 <;> simp [tighter, h]

theorem cut_cut (a b : Nat) (line : Bytes) : cut b (cut a line) = cut (tighter a b) line := by
  by_cases ha : a = 0
  · simp [cut, tighter, ha]
  · by_cases hb : b = 0
    · simp [cut, tighter, ha, hb]
    · have hmin : min a b ≠ 0 := by omega
      rw [cut, cut, cut, tighter, if_neg ha, if_neg ha, if_neg hb, if_neg hb, if_neg hmin, List.take_take,
        Nat.min_comm]

/-- A view of a view is the view under the tighter limit. -/
theorem view_view (text : Bytes) (a b : Nat) : view (view text a) b = view text (tighter a b) := by
  have hpieces : (view (view text a) b).splitOn newline = (view text (tighter a b)).splitOn newline := by
    rw [splitOn_view, splitOn_view, splitOn_view, List.map_map]
    exact List.map_congr_left fun line _ => cut_cut a b line
  calc view (view text a) b
      = [newline].intercalate ((view (view text a) b).splitOn newline) :=
        (List.intercalate_splitOn newline).symm
    _ = [newline].intercalate ((view text (tighter a b)).splitOn newline) := by rw [hpieces]
    _ = view text (tighter a b) := List.intercalate_splitOn newline

/-- **The view is a cut of every line, and cuts compose.** Split at newlines, the view has the lines of the text
in their order, of each the first `limit` bytes, or all of it without a limit.  The scan finds no long line just
when cutting line by line gives the text back, so the way around the cut is taken where it changes nothing.  A
view of a view is the view under the smaller limit, and cutting again under the same limit changes nothing. -/
theorem view_cuts_lines (text : Bytes) (limit next : Nat) :
    (view text limit).splitOn newline =
        (text.splitOn newline).map (fun line => if limit = 0 then line else line.take limit) ∧
      (hasLongLine text limit = false ↔ text.lines.flatMap (cutLine limit) = text) ∧
      (0 < limit → 0 < next → view (view text limit) next = view text (min limit next)) ∧
      view (view text limit) limit = view text limit := by
  refine ⟨splitOn_view text limit, hasLongLine_eq_false_iff, fun hlimit hnext => ?_, ?_⟩
  · have htighter : tighter limit next = min limit next := by
      rw [tighter, if_neg (Nat.ne_of_gt hlimit), if_neg (Nat.ne_of_gt hnext)]
    rw [view_view, htighter]
  · rw [view_view, tighter_self]

/-- The lines are `ab`, `abcdef`, an empty one and `xyz` without newline, cut to three bytes and then to two. -/
theorem view_cuts_lines_twice :
    let text : Bytes := [97, 98, 10, 97, 98, 99, 100, 101, 102, 10, 10, 120, 121, 122]
    0 < 3 ∧ 0 < 2 ∧ view (view text 3) 2 = [97, 98, 10, 97, 98, 10, 10, 120, 121] := by
  intro text
  have htwice := (view_cuts_lines text 3 2).2.2.1 (by decide) (by decide)
  exact ⟨by decide, by decide, htwice.trans (by cbv)⟩

end TrigramGrep.View
