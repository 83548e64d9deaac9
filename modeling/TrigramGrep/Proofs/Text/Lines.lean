import Mathlib.Data.List.SplitBy
import Mathlib.Data.List.TakeDrop
import TrigramGrep.Buffer
import TrigramGrep.View

/-!
# The lines of a text

A text is read line by line: it is empty, or a last line without newline, or a line with its newline and more
text behind it (`Bytes.induction_lines`).  Cutting at newlines goes along with this, since a text may be cut
behind any newline first (`Bytes.lines_append`).

## Shape of a line in its place

Positions in a text are told apart by the line on which they lie.  `Bytes.IsLine text before line behind` says
that `line` is a whole line of `text`, between finished lines `before` it and its newline, or nothing, `behind`
it.  What a buffer finds by walking from a position of the line, its beginning and its end, depends on the
lengths of the three parts only.
-/

namespace TrigramGrep

namespace Bytes

/-! ## Cutting at newlines -/

/-- A text without an unfinished last line: it is empty or ends in a newline. -/
def Closed (text : Bytes) : Prop :=
  ∀ byte ∈ text.getLast?, byte = newline

theorem closed_nil : Closed [] := by simp [Closed]

theorem closed_append_newline (text : Bytes) : Closed (text ++ [newline]) := by simp [Closed]

/-- Joining the lines of a text gives the text back. -/
@[simp] theorem flatten_lines (text : Bytes) : text.lines.flatten = text :=
  List.flatten_splitBy _ text

@[simp] theorem lines_nil : lines [] = [] := rfl

/-- Behind a newline a new line begins. -/
theorem lines_append {before : Bytes} (h : Closed before) (rest : Bytes) :
    (before ++ rest).lines = before.lines ++ rest.lines := by
  refine List.splitBy_append fun byte hbyte other _ => ?_
  simp [h byte hbyte]

/-- A text without newline is one line. -/
theorem lines_of_notMem {body : Bytes} (hne : body ≠ []) (h : newline ∉ body) : body.lines = [body] := by
  refine List.splitBy_of_isChain hne (List.isChain_iff_getElem.mpr fun i hi => ?_)
  have hbyte : body[i] ≠ newline := fun heq => h (heq ▸ List.getElem_mem _)
  simpa using hbyte

/-- A text with its only newline at the end is one line. -/
theorem lines_append_newline {body : Bytes} (h : newline ∉ body) :
    (body ++ [newline]).lines = [body ++ [newline]] := by
  refine List.splitBy_of_isChain (by simp) (List.isChain_iff_getElem.mpr fun i hi => ?_)
  have hlt : i < body.length := by simpa using hi
  have hbyte : body[i] ≠ newline := fun heq => h (heq ▸ List.getElem_mem _)
  simpa [List.getElem_append_left hlt] using hbyte

/-- The first newline of a text ends its first line. -/
theorem lines_append_newline_cons {line : Bytes} (h : newline ∉ line) (rest : Bytes) :
    (line ++ newline :: rest).lines = (line ++ [newline]) :: rest.lines := by
  have hsplit : line ++ newline :: rest = (line ++ [newline]) ++ rest := by simp
  rw [hsplit, lines_append (closed_append_newline line), lines_append_newline h, List.singleton_append]

/-- The first newline divides a text in one way only. -/
theorem append_newline_cons_inj {a b rest other : Bytes} (ha : newline ∉ a) (hb : newline ∉ b) :
    a ++ newline :: rest = b ++ newline :: other ↔ a = b ∧ rest = other := by
  constructor
  · intro heq
    have hhead : a = b := by
      have hsplit := congrArg (List.splitOn newline) heq
      rw [List.splitOn_append_cons_self_of_not_mem ha, List.splitOn_append_cons_self_of_not_mem hb] at hsplit
      exact (List.cons.inj hsplit).1
    subst hhead
    exact ⟨rfl, (List.cons.inj (List.append_cancel_left heq)).2⟩
  · rintro ⟨rfl, rfl⟩
    rfl

/-- Reading a text line by line. -/
@[elab_as_elim] theorem induction_lines {motive : Bytes → Prop} (nil : motive [])
    (last : ∀ line, line ≠ [] → newline ∉ line → motive line)
    (cons : ∀ line rest, newline ∉ line → motive rest → motive (line ++ newline :: rest))
    (text : Bytes) : motive text := by
  by_cases hmem : newline ∈ text
  · obtain ⟨line, rest, hsplit, hline⟩ := List.eq_append_cons_of_mem hmem
    subst hsplit
    exact cons line rest hline (induction_lines nil last cons rest)
  · by_cases hne : text = []
    · subst hne
      exact nil
    · exact last text hne hmem
termination_by text.length
decreasing_by simp [hsplit]; omega

/-! ## Lines without their newlines -/

theorem endsInNewline_append_newline (line : Bytes) : (line ++ [newline]).endsInNewline = true := by
  simp [endsInNewline]

theorem endsInNewline_of_notMem {line : Bytes} (h : newline ∉ line) : line.endsInNewline = false := by
  rw [endsInNewline, beq_eq_false_iff_ne]
  exact fun hlast => h (List.mem_of_getLast? hlast)

@[simp] theorem body_append_newline (line : Bytes) : (line ++ [newline]).body = line := by
  rw [body, if_pos (endsInNewline_append_newline line), List.dropLast_concat]

theorem body_of_notMem {line : Bytes} (h : newline ∉ line) : line.body = line := by
  rw [body, endsInNewline_of_notMem h, if_neg Bool.false_ne_true]

/-- A line of a text by its number, counted from zero, without its newline. -/
def lineAt (text : Bytes) (number : Nat) : Bytes :=
  (text.lines.map body).getD number []

/-- Finished lines are as many as their newlines. -/
theorem length_lines_of_closed {text : Bytes} (h : Closed text) :
    text.lines.length = text.count newline := by
  induction text using induction_lines with
  | nil => rfl
  | last line hne hline =>
    have hlast := h _ (List.getLast?_eq_some_getLast hne)
    exact absurd (hlast ▸ List.getLast_mem hne) hline
  | cons line rest hline ih =>
    have hrest : Closed rest := by
      intro byte hbyte
      refine h byte ?_
      rw [List.getLast?_append, List.getLast?_cons, Option.mem_def.mp hbyte]
      rfl
    rw [lines_append_newline_cons hline, List.length_cons, ih hrest, List.count_append,
      List.count_eq_zero_of_not_mem hline, List.count_cons_self, Nat.zero_add]

/-! ## A line in its place -/

/-- A whole line of a text, without its newline, between the lines before it and what follows it. -/
structure IsLine (text before line behind : Bytes) : Prop where
  eq_append : text = before ++ line ++ behind
  closed : Closed before
  notMem : newline ∉ line
  /-- The line ends with its newline, or it is the last line and not empty. -/
  ended : (∃ rest, behind = newline :: rest) ∨ behind = [] ∧ line ≠ []

namespace IsLine

variable {text before line behind : Bytes} {position : Nat}

theorem length_eq (h : IsLine text before line behind) :
    text.length = before.length + line.length + behind.length := by
  rw [h.eq_append, List.length_append, List.length_append]

/-- The line is the next one behind the finished lines before it. -/
theorem lineAt_eq (h : IsLine text before line behind) : text.lineAt before.lines.length = line := by
  have hnext : ∃ rest, text.lines.map body = before.lines.map body ++ line :: rest := by
    rw [h.eq_append, List.append_assoc, lines_append h.closed, List.map_append]
    rcases h.ended with ⟨rest, hrest⟩ | ⟨hnil, hne⟩
    · refine ⟨(lines rest).map body, ?_⟩
      rw [hrest, lines_append_newline_cons h.notMem, List.map_cons, body_append_newline]
    · refine ⟨[], ?_⟩
      rw [hnil, List.append_nil, lines_of_notMem hne h.notMem, List.map_singleton, body_of_notMem h.notMem]
  obtain ⟨rest, hrest⟩ := hnext
  rw [lineAt, hrest, List.getD_eq_getElem?_getD, List.getElem?_append_right (by simp)]
  simp

theorem take_lines (h : IsLine text before line behind) :
    text.lines.take before.lines.length = before.lines := by
  rw [h.eq_append, List.append_assoc, lines_append h.closed, List.take_left]

/-- The newlines before the line are counted by the lines before it. -/
theorem count_take (h : IsLine text before line behind) :
    (text.take before.length).count newline = before.lines.length := by
  rw [h.eq_append, List.append_assoc, List.take_left, length_lines_of_closed h.closed]

/-! ## What a buffer finds -/

theorem newlineAt_eq_false (h : IsLine text before line behind) (hlow : before.length ≤ position)
    (hhigh : position < before.length + line.length) :
    Buffer.newlineAt text.toArray position = false := by
  rw [Buffer.newlineAt, List.getElem?_toArray, h.eq_append, List.append_assoc,
    List.getElem?_append_right hlow, List.getElem?_append_left (by omega), beq_eq_false_iff_ne]
  exact fun heq => h.notMem (List.mem_of_getElem? heq)

/-- From a position on the line, the walk back ends behind the newline of the line before. -/
theorem lineStart_eq (h : IsLine text before line behind) (hlow : before.length ≤ position)
    (hhigh : position ≤ before.length + line.length) :
    Buffer.lineStart text.toArray position = before.length := by
  induction position with
  | zero => exact (Nat.le_zero.mp hlow).symm
  | succ position ih =>
    rw [Buffer.lineStart]
    rcases Nat.lt_or_eq_of_le hlow with hlt | heq
    · rw [h.newlineAt_eq_false (by omega) (by omega), if_neg Bool.false_ne_true,
        ih (by omega) (by omega)]
    · -- the line begins here, so the byte before is the last one of the lines before
      have hbyte : text[position]? = before.getLast? := by
        rw [h.eq_append, List.append_assoc, List.getElem?_append_left (by omega), List.getLast?_eq_getElem?,
          heq, Nat.add_sub_cancel]
      have hlast : before.getLast? = some newline := by
        have hne : before ≠ [] := by rintro rfl; cases heq
        rw [List.getLast?_eq_some_getLast hne, h.closed _ (List.getLast?_eq_some_getLast hne)]
      rw [if_pos (by simp [Buffer.newlineAt, hbyte, hlast]), heq]

/-- From a position on the line, the walk on ends at the end of the line. -/
theorem lineStop_eq (h : IsLine text before line behind) (hlow : before.length ≤ position)
    (hhigh : position ≤ before.length + line.length) :
    Buffer.lineStop text.toArray position = before.length + line.length := by
  have hlength := h.length_eq
  fun_induction Buffer.lineStop text.toArray position with
  | case1 position hlt hnewline =>
    rcases Nat.lt_or_eq_of_le hhigh with hon | heq
    · rw [h.newlineAt_eq_false hlow hon] at hnewline
      cases hnewline
    · exact heq
  | case2 position hlt hnewline ih =>
    rcases Nat.lt_or_eq_of_le hhigh with hon | heq
    · exact ih (by omega) (by omega)
    · rw [List.size_toArray] at hlt
      rcases h.ended with ⟨rest, hrest⟩ | ⟨hnil, -⟩
      · refine absurd ?_ hnewline
        rw [Buffer.newlineAt, List.getElem?_toArray, h.eq_append, heq, ← List.length_append,
          List.getElem?_append_right (Nat.le_refl _), Nat.sub_self, hrest]
        rfl
      · rw [hnil, List.length_nil] at hlength
        omega
  | case3 position hle =>
    rw [List.size_toArray] at hle ⊢
    omega

/-- A line without newline leaves the buffer unfinished. -/
theorem isClosed_eq_false (h : IsLine text before line []) : Buffer.isClosed text.toArray = false := by
  rcases h.ended with ⟨rest, hrest⟩ | ⟨-, hne⟩
  · cases hrest
  · have hlast : text.getLast? = line.getLast? := by
      rw [h.eq_append, List.append_nil, List.getLast?_append, List.getLast?_eq_some_getLast hne]
      rfl
    have hnewline : line.getLast? ≠ some newline := fun heq => h.notMem (List.mem_of_getLast? heq)
    have htext : text ≠ [] := by
      rintro rfl
      exact hne (List.getLast?_eq_none_iff.mp hlast.symm)
    simp [Buffer.isClosed, hlast, hnewline, htext]

/-- The bytes of the line are those between its beginning and its end. -/
theorem extract_eq (h : IsLine text before line behind) :
    (text.toArray.extract before.length (before.length + line.length)).toList = line := by
  rw [List.extract_toArray, List.extract_eq_take_drop, Nat.add_sub_cancel_left, h.eq_append,
    List.append_assoc, List.drop_left, List.take_left]

end IsLine

/-- Every line of a text has its place. -/
theorem exists_isLine {text : Bytes} {number : Nat} (h : number < text.lines.length) :
    ∃ before line behind, IsLine text before line behind ∧ before.lines.length = number := by
  suffices ∀ before, Closed before → ∀ number < text.lines.length,
      ∃ before' line behind, IsLine (before ++ text) before' line behind ∧
        before'.lines.length = before.lines.length + number by
    simpa using this [] closed_nil number h
  clear h
  induction text using induction_lines with
  | nil => exact fun _ _ number hnumber => absurd hnumber (Nat.not_lt_zero _)
  | last line hne hline =>
    intro before hbefore number hnumber
    rw [lines_of_notMem hne hline, List.length_singleton, Nat.lt_one_iff] at hnumber
    have hplace : IsLine (before ++ line) before line [] :=
      ⟨(List.append_nil _).symm, hbefore, hline, .inr ⟨rfl, hne⟩⟩
    exact ⟨before, line, [], hplace, by rw [hnumber, Nat.add_zero]⟩
  | cons line rest hline ih =>
    intro before hbefore number hnumber
    cases number with
    | zero =>
      exact ⟨before, line, newline :: rest,
        ⟨(List.append_assoc _ _ _).symm, hbefore, hline, .inl ⟨rest, rfl⟩⟩, rfl⟩
    | succ number =>
      rw [lines_append_newline_cons hline, List.length_cons, Nat.add_lt_add_iff_right] at hnumber
      have hclosed : Closed (before ++ (line ++ [newline])) := by
        rw [← List.append_assoc]
        exact closed_append_newline _
      obtain ⟨before', line', behind, hplace, hlength⟩ := ih _ hclosed number hnumber
      refine ⟨before', line', behind, by simpa using hplace, ?_⟩
      rw [hlength, lines_append hbefore, lines_append_newline hline, List.length_append,
        List.length_singleton]
      omega

end Bytes

/-! ## Counting newlines -/

/-- A buffer counts the newlines of a range. -/
theorem Buffer.newlines_toArray (text : Bytes) (start count : Nat) :
    Buffer.newlines text.toArray start count = ((text.drop start).take count).count Bytes.newline := by
  induction count with
  | zero => simp [Buffer.newlines]
  | succ count ih =>
    rw [Buffer.newlines, ih, Buffer.newlineAt, List.getElem?_toArray, List.take_add_one, List.count_append,
      List.getElem?_drop]
    cases text[start + count]? with
    | none => rfl
    | some byte => simp [List.count_singleton]

namespace View

open Bytes

/-! ## Lines of the view -/

/-- A line without its newline cut to a limit, zero for no cut. -/
def cut (limit : Nat) (line : Bytes) : Bytes :=
  if limit = 0 then line else line.take limit

theorem cutLine_append_newline (limit : Nat) (line : Bytes) :
    cutLine limit (line ++ [newline]) = line.take limit ++ [newline] := by
  rw [cutLine, if_pos (endsInNewline_append_newline line), body_append_newline]

theorem cutLine_of_notMem {line : Bytes} (limit : Nat) (h : newline ∉ line) :
    cutLine limit line = line.take limit := by
  rw [cutLine, endsInNewline_of_notMem h, if_neg Bool.false_ne_true]

/-- Lines that are cut one by one are the lines of the text that they make. -/
theorem lines_flatMap_cutLine {limit : Nat} (hlimit : limit ≠ 0) (text : Bytes) :
    (lines (text.lines.flatMap (cutLine limit))).map body =
      text.lines.map fun line => line.body.take limit := by
  have hcut : ∀ {line : Bytes}, newline ∉ line → newline ∉ line.take limit :=
    fun hline hmem => hline (List.mem_of_mem_take hmem)
  induction text using induction_lines with
  | nil => rfl
  | last line hne hline =>
    have hne' : line.take limit ≠ [] := by simp [hlimit, hne]
    rw [lines_of_notMem hne hline, List.flatMap_singleton, cutLine_of_notMem limit hline,
      lines_of_notMem hne' (hcut hline), List.map_singleton, List.map_singleton, body_of_notMem hline,
      body_of_notMem (hcut hline)]
  | cons line rest hline ih =>
    rw [lines_append_newline_cons hline, List.flatMap_cons, cutLine_append_newline, List.append_assoc,
      List.singleton_append, lines_append_newline_cons (hcut hline), List.map_cons, List.map_cons, ih,
      body_append_newline, body_append_newline]

/-! ## The scan for long lines -/

/-- On a line, the scan adds up what is read and what is left of it. -/
theorem longLineFrom_of_notMem {line : Bytes} (h : newline ∉ line) (limit start position : Nat) :
    longLineFrom limit start position line = decide (limit < position + line.length - start) := by
  induction line generalizing position with
  | nil => rfl
  | cons byte line ih =>
    obtain ⟨hbyte, hline⟩ := List.ne_and_not_mem_of_not_mem_cons h
    rw [longLineFrom, if_neg (Ne.symm hbyte), ih hline, List.length_cons, Nat.add_right_comm, Nat.add_assoc]

/-- At the newline that ends a line, the scan looks at the line and begins the next one. -/
theorem longLineFrom_append_newline_cons {line : Bytes} (h : newline ∉ line) (limit start position : Nat)
    (rest : Bytes) :
    longLineFrom limit start position (line ++ newline :: rest) =
      (decide (limit < position + line.length - start) ||
        longLineFrom limit (position + line.length + 1) (position + line.length + 1) rest) := by
  induction line generalizing position with
  | nil => simp [longLineFrom]
  | cons byte line ih =>
    obtain ⟨hbyte, hline⟩ := List.ne_and_not_mem_of_not_mem_cons h
    have hlength : position + 1 + line.length = position + (line.length + 1) := by omega
    rw [List.cons_append, longLineFrom, if_neg (Ne.symm hbyte), ih hline, List.length_cons, hlength]

/-- The scan and the cut agree on what a long line is: none is found where the cut changes nothing. -/
theorem hasLongLine_eq_false_iff {text : Bytes} {limit : Nat} :
    hasLongLine text limit = false ↔ text.lines.flatMap (cutLine limit) = text := by
  have hscan : ∀ position, longLineFrom limit position position text = false ↔
      text.lines.flatMap (cutLine limit) = text := by
    induction text using induction_lines with
    | nil => simp [longLineFrom]
    | last line hne hline =>
      intro position
      rw [longLineFrom_of_notMem hline, lines_of_notMem hne hline, List.flatMap_singleton,
        cutLine_of_notMem limit hline, List.take_eq_self_iff, decide_eq_false_iff_not]
      omega
    | cons line rest hline ih =>
      intro position
      have hcut : newline ∉ line.take limit := fun hmem => hline (List.mem_of_mem_take hmem)
      rw [longLineFrom_append_newline_cons hline, Bool.or_eq_false_iff, ih, decide_eq_false_iff_not,
        lines_append_newline_cons hline, List.flatMap_cons, cutLine_append_newline, List.append_assoc,
        List.singleton_append, append_newline_cons_inj hcut hline, List.take_eq_self_iff]
      refine and_congr_left fun _ => ?_
      omega
  exact hscan 0

/-- Under a limit, every line is cut, also where the scan spares the work. -/
theorem view_eq_flatMap {limit : Nat} (hlimit : limit ≠ 0) (text : Bytes) :
    view text limit = text.lines.flatMap (cutLine limit) := by
  rw [view, cut?]
  cases hlong : hasLongLine text limit with
  | true => simp [hlimit]
  | false => simpa [hlimit] using (hasLongLine_eq_false_iff.mp hlong).symm

theorem view_zero (text : Bytes) : view text 0 = text := by simp [view, cut?]

/-- **The view is a cut of every line.** It has the lines of the text, each cut to the limit. -/
theorem lines_view (text : Bytes) (limit : Nat) :
    (view text limit).lines.map body = text.lines.map fun line => cut limit line.body := by
  by_cases hlimit : limit = 0
  · simp [hlimit, view_zero, cut]
  · simpa [view_eq_flatMap hlimit, hlimit, cut] using lines_flatMap_cutLine hlimit text

theorem length_lines_view (text : Bytes) (limit : Nat) :
    (view text limit).lines.length = text.lines.length := by
  simpa using congrArg List.length (lines_view text limit)

/-- A line of the view is the line of the text with its number, cut to the limit. -/
theorem lineAt_view (text : Bytes) (limit number : Nat) :
    (view text limit).lineAt number = cut limit (text.lineAt number) := by
  have hnil : cut limit [] = [] := by simp [cut]
  rw [lineAt, lineAt, lines_view, List.getD_eq_getElem?_getD, List.getD_eq_getElem?_getD, List.getElem?_map,
    List.getElem?_map]
  cases text.lines[number]? with
  | none => exact hnil.symm
  | some line => rfl

end View

end TrigramGrep
