import TrigramGrep.Proofs.Outcome
import TrigramGrep.Proofs.Output

/-!
# A line as it reaches the sink

The sink is called to set a style, to write bytes and to reset the style, and a stroke stands for such calls.  Here a
line with its spans is printed call by call, and each step that can go wrong is one that may stop: a position is moved
into a range that ends before it begins, or a part is taken that does not lie in the line.  None does
(`Guarded.highlight_eq`), so the calls are those of the strokes of the line.

What is written is the line, whatever the spans are.  Where they are sorted by their starts, a byte of the line is
written between a style and its reset exactly if a span contains its position (`marks_highlight`, by induction on the
spans: what is left of the line begins where the first span ends in it, and no later span begins before the first).
-/

namespace TrigramGrep

/-! ## Calls of a sink -/

/-- A call of a sink. -/
inductive Call where
  | setStyle (style : Style)
  | write (bytes : Bytes)
  | reset
  deriving DecidableEq, Repr

namespace Call

/-- What a sink with or without colour makes of a call. -/
def render (color : Bool) : Call → Bytes
  | .setStyle style => if color then Stroke.opening style else []
  | .write bytes => bytes
  | .reset => if color then Stroke.reset else []

/-- The bytes that calls write, each with whether it is written between a style and its reset; `styled` tells whether
a style is set before. -/
def marksFrom (styled : Bool) : List Call → List (UInt8 × Bool)
  | [] => []
  | .setStyle _ :: calls => marksFrom true calls
  | .write bytes :: calls => bytes.map (·, styled) ++ marksFrom styled calls
  | .reset :: calls => marksFrom false calls

/-- The bytes that calls write, each with whether it is written between a style and its reset. -/
def marks (calls : List Call) : List (UInt8 × Bool) := marksFrom false calls

/-- The bytes that are written are those that a sink without colour gets. -/
theorem map_fst_marks (calls : List Call) : (marks calls).map Prod.fst = calls.flatMap (render false) := by
  have hfrom : ∀ styled, (marksFrom styled calls).map Prod.fst = calls.flatMap (render false) := by
    induction calls with
    | nil => exact fun _ => rfl
    | cons call calls ih =>
      intro styled
      cases call <;> simp [marksFrom, render, ih, Function.comp_def]
  exact hfrom false

end Call

/-- The calls that a stroke stands for. -/
def Stroke.calls (stroke : Stroke) : List Call :=
  if stroke.style = .plain then [.write stroke.bytes]
  else [.setStyle stroke.style, .write stroke.bytes, .reset]

/-- The bytes of a stroke, each with whether the stroke has a style. -/
def Stroke.marks (stroke : Stroke) : List (UInt8 × Bool) :=
  stroke.bytes.map (·, decide (stroke.style ≠ .plain))

namespace Output

/-- The calls that strokes stand for. -/
def calls (strokes : List Stroke) : List Call := strokes.flatMap Stroke.calls

@[simp] theorem calls_cons (stroke : Stroke) (strokes : List Stroke) :
    calls (stroke :: strokes) = stroke.calls ++ calls strokes := rfl

@[simp] theorem calls_append (a b : List Stroke) : calls (a ++ b) = calls a ++ calls b :=
  List.flatMap_append

/-- A sink gets from the calls what it gets from the strokes. -/
theorem flatMap_render_calls (color : Bool) (strokes : List Stroke) :
    (calls strokes).flatMap (Call.render color) = render color strokes := by
  rw [calls, List.flatMap_assoc, render]
  refine congrArg strokes.flatMap (funext fun stroke => ?_)
  obtain ⟨style, bytes⟩ := stroke
  cases color <;> cases style <;> simp [Stroke.calls, Stroke.render, Call.render]

/-- Every stroke resets its style. -/
theorem marks_calls (strokes : List Stroke) : Call.marks (calls strokes) = strokes.flatMap Stroke.marks := by
  induction strokes with
  | nil => rfl
  | cons stroke strokes ih =>
    rw [Call.marks] at ih
    rw [calls_cons, List.flatMap_cons, ← ih, Stroke.calls, Stroke.marks, Call.marks]
    by_cases hstyle : stroke.style = .plain <;> simp [hstyle, Call.marksFrom]

end Output

/-! ## Printing call by call -/

/-- A position moved into a range, which must not end before it begins. -/
def Outcome.clamp {ε : Type} (position low high : Nat) : Outcome ε { n // n = Output.clamp position low high } :=
  if low ≤ high then .answer ⟨Output.clamp position low high, rfl⟩ else .trap .range

theorem Outcome.clamp_eq {ε : Type} {position low high : Nat} (h : low ≤ high) :
    (clamp position low high : Outcome ε _) = .answer ⟨Output.clamp position low high, rfl⟩ := if_pos h

namespace Output

variable {ε : Type} {line : Bytes} {position low high : Nat}

theorem low_le_clamp (position low high : Nat) : low ≤ clamp position low high := Nat.le_max_left _ _

theorem clamp_le (h : low ≤ high) : clamp position low high ≤ high :=
  Nat.max_le.mpr ⟨h, Nat.min_le_right _ _⟩

namespace Guarded

/-- The calls for the part of a line from `position` on, its spans highlighted, step by step. -/
def highlight (line : Bytes) (position : Nat) : List Span → Outcome ε (List Call)
  | [] => do
    let rest ← Outcome.slice line position line.length
    .answer [.write rest]
  | span :: spans => do
    let ⟨start, _⟩ ← Outcome.clamp span.start position line.length
    let ⟨stop, _⟩ ← Outcome.clamp span.stop start line.length
    let before ← Outcome.slice line position start
    let shown ← if start < stop then do
        let part ← Outcome.slice line start stop
        .answer [.setStyle .highlighted, .write part, .reset]
      else .answer []
    let rest ← highlight line stop spans
    .answer (.write before :: (shown ++ rest))

/-- The calls for a matching line, step by step. -/
def matchLine (name : Option String) (number : Option Nat) (line : Bytes) (spans : List Span) :
    Outcome ε (List Call) := do
  let shown ← highlight line 0 spans
  .answer (calls (nameLabel name ++ numberLabel number) ++ shown ++ [.write [Bytes.newline]])

/-- Highlighting makes no wrong step. -/
theorem highlight_eq (line : Bytes) (spans : List Span) {position : Nat} (h : position ≤ line.length) :
    (highlight line position spans : Outcome ε _) = .answer (calls (Output.highlight line position spans)) := by
  induction spans generalizing position with
  | nil => rw [highlight, Outcome.slice_length h]; rfl
  | cons span spans ih =>
    rw [highlight, Outcome.clamp_eq h, Outcome.answer_bind, Output.highlight]
    dsimp only
    have hstart := low_le_clamp span.start position line.length
    have hstart' : clamp span.start position line.length ≤ line.length := clamp_le h
    generalize clamp span.start position line.length = start at hstart hstart' ⊢
    rw [Outcome.clamp_eq hstart', Outcome.answer_bind]
    dsimp only
    have hstop := low_le_clamp span.stop start line.length
    have hstop' : clamp span.stop start line.length ≤ line.length := clamp_le hstart'
    generalize clamp span.stop start line.length = stop at hstop hstop' ⊢
    rw [Outcome.slice_eq hstart hstart', Outcome.answer_bind, Outcome.slice_eq hstop hstop', ih hstop',
      ← List.drop_take, ← List.drop_take]
    by_cases hne : start < stop <;> simp [hne, Stroke.calls, Stroke.ofPlain]

end Guarded

/-! ## Which bytes are highlighted -/

/-- A run of bytes that begins at a position, each with whether its position passes a test. -/
def tested (test : Nat → Bool) (position : Nat) (bytes : Bytes) : List (UInt8 × Bool) :=
  bytes.mapIdx fun i byte => (byte, test (position + i))

variable {test other : Nat → Bool} {bytes : Bytes}

theorem tested_append (test : Nat → Bool) (position : Nat) (a b : Bytes) :
    tested test position (a ++ b) = tested test position a ++ tested test (position + a.length) b := by
  rw [tested, List.mapIdx_append]
  refine congrArg (tested test position a ++ ·) (congrArg (b.mapIdx ·) (funext₂ fun i byte => ?_))
  rw [Nat.add_comm i, Nat.add_assoc]

/-- A test is asked about the positions of the bytes only. -/
theorem tested_congr (h : ∀ i, position ≤ i → i < position + bytes.length → test i = other i) :
    tested test position bytes = tested other position bytes :=
  List.ext_getElem (by simp [tested]) fun i hi _ => by
    rw [tested, List.length_mapIdx] at hi
    simp only [tested, List.getElem_mapIdx, h (position + i) (by omega) (by omega)]

/-- A test with one outcome for all the bytes. -/
theorem tested_eq_map {value : Bool} (h : ∀ i, position ≤ i → i < position + bytes.length → test i = value) :
    tested test position bytes = bytes.map (·, value) :=
  (tested_congr h).trans (List.ext_getElem (by simp [tested]) fun i _ _ => by simp [tested])

theorem length_part {start stop : Nat} (hline : stop ≤ line.length) :
    ((line.take stop).drop start).length = stop - start := by
  rw [List.length_drop, List.length_take, Nat.min_eq_left hline]

/-- A line from a position on: the bytes up to a start, those from there up to a stop, and the others. -/
theorem tested_drop (test : Nat → Bool) {start stop : Nat} (hstart : position ≤ start) (hstop : start ≤ stop)
    (hline : stop ≤ line.length) :
    tested test position (line.drop position) =
      tested test position ((line.take start).drop position) ++
        (tested test start ((line.take stop).drop start) ++ tested test stop (line.drop stop)) := by
  have hlen : position + ((line.take start).drop position).length = start := by
    rw [length_part (Nat.le_trans hstop hline)]
    omega
  have hlen' : start + ((line.take stop).drop start).length = stop := by
    rw [length_part hline]
    omega
  rw [← drop_take_append_drop line hstart, tested_append, hlen, ← drop_take_append_drop line hstop, tested_append,
    hlen']

/-- A position of a line that is moved back by a clamp of a start is before that start. -/
theorem lt_of_lt_clamp {i start : Nat} (hi : position ≤ i) (h : i < clamp start position high) : i < start := by
  rw [clamp] at h
  omega

/-- A position that a clamp of a stop leaves behind is behind that stop. -/
theorem le_of_clamp_le {i stop : Nat} (hi : i < high) (h : clamp stop low high ≤ i) : stop ≤ i := by
  rw [clamp] at h
  omega

/-- Whether a span contains a position. -/
def isCovered (spans : List Span) (i : Nat) : Bool := decide (∃ span ∈ spans, span.start ≤ i ∧ i < span.stop)

section Covered

variable {spans : List Span} {span : Span} {i : Nat}

theorem isCovered_of_lt (h : ∀ span ∈ spans, i < span.start) : isCovered spans i = false := by
  rw [isCovered, decide_eq_false_iff_not]
  rintro ⟨span, hmem, hle, -⟩
  exact Nat.not_lt_of_le hle (h span hmem)

theorem isCovered_cons_of_within (hstart : span.start ≤ i) (hstop : i < span.stop) :
    isCovered (span :: spans) i = true :=
  decide_eq_true ⟨span, List.mem_cons_self, hstart, hstop⟩

theorem isCovered_cons_of_le (h : span.stop ≤ i) : isCovered (span :: spans) i = isCovered spans i := by
  rw [isCovered, isCovered, decide_eq_decide]
  simp only [List.mem_cons, exists_eq_or_imp]
  exact or_iff_right fun hspan => Nat.not_lt_of_le h hspan.2

end Covered

/-- Where the spans are sorted by their starts, the bytes from `position` on are highlighted that a span contains. -/
theorem marks_highlight {spans : List Span} (hsorted : spans.Pairwise (·.start ≤ ·.start))
    (h : position ≤ line.length) :
    (highlight line position spans).flatMap Stroke.marks =
      tested (isCovered spans) position (line.drop position) := by
  induction spans generalizing position with
  | nil =>
    rw [tested_eq_map fun i _ _ => isCovered_of_lt (by simp)]
    simp [highlight, Stroke.ofPlain, Stroke.marks]
  | cons span spans ih =>
    obtain ⟨hfirst, hrest⟩ := List.pairwise_cons.mp hsorted
    -- the first span is moved into the rest of the line, and no span begins before it does
    have hstart := low_le_clamp span.start position line.length
    have hstart' : clamp span.start position line.length ≤ line.length := clamp_le h
    have hbefore : ∀ i, position ≤ i → i < clamp span.start position line.length →
        isCovered (span :: spans) i = false := fun i hi hlt =>
      have hspan : i < span.start := lt_of_lt_clamp hi hlt
      isCovered_of_lt (List.forall_mem_cons.mpr ⟨hspan, fun other hmem => Nat.lt_of_lt_of_le hspan (hfirst other hmem)⟩)
    have hafter : ∀ i < line.length, clamp span.start position line.length ≤ i → span.start ≤ i :=
      fun i hi => le_of_clamp_le hi
    rw [highlight]
    generalize clamp span.start position line.length = start at hstart hstart' hafter hbefore ⊢
    have hstop := low_le_clamp span.stop start line.length
    have hstop' : clamp span.stop start line.length ≤ line.length := clamp_le hstart'
    have hwithin : ∀ i, start ≤ i → i < clamp span.stop start line.length → i < span.stop :=
      fun i hi => lt_of_lt_clamp hi
    have hbehind : ∀ i < line.length, clamp span.stop start line.length ≤ i → span.stop ≤ i :=
      fun i hi => le_of_clamp_le hi
    generalize clamp span.stop start line.length = stop at hstop hstop' hbehind hwithin ⊢
    have hplain : tested (isCovered (span :: spans)) position ((line.take start).drop position) =
        Stroke.marks (.ofPlain ((line.take start).drop position)) := by
      refine tested_eq_map fun i hi hlt => hbefore i hi ?_
      rw [length_part hstart'] at hlt
      omega
    have hstyled : tested (isCovered (span :: spans)) start ((line.take stop).drop start) =
        (if start < stop then [⟨.highlighted, (line.take stop).drop start⟩] else []).flatMap Stroke.marks := by
      rcases Nat.lt_or_eq_of_le hstop with hlt | rfl
      · rw [if_pos hlt, List.flatMap_singleton]
        refine tested_eq_map fun i hi hlt' => ?_
        rw [length_part hstop'] at hlt'
        exact isCovered_cons_of_within (hafter i (by omega) hi) (hwithin i hi (by omega))
      · simp [tested]
    have hlater : tested (isCovered (span :: spans)) stop (line.drop stop) =
        tested (isCovered spans) stop (line.drop stop) := by
      refine tested_congr fun i hi hlt => isCovered_cons_of_le (hbehind i ?_ hi)
      rw [List.length_drop] at hlt
      omega
    rw [tested_drop _ hstart hstop hstop', hplain, hstyled, hlater, ← ih hrest hstop', List.flatMap_cons,
      List.flatMap_append]

/-- **A matching line is printed whole, whatever its spans are.**

No step of printing goes wrong, and the calls for the sink are those of the strokes of the line.  Behind the labels
they write the line and a newline.  Hence a sink without colour gets the same bytes for any spans.  Where the spans
are sorted by their starts, a byte of the line is written between a style and its reset exactly if a span contains its
position; the newline never is. -/
theorem Guarded.matchLine_writes_line (name : Option String) (number : Option Nat) (line : Bytes)
    (spans : List Span) : ∃ made shown,
      (Guarded.matchLine name number line spans : Outcome ε _) = .answer made ∧
      (∀ color, made.flatMap (Call.render color) = render color (Output.matchLine name number line spans)) ∧
      render false (Output.matchLine name number line spans) =
        text (nameLabel name) ++ text (numberLabel number) ++ line ++ [Bytes.newline] ∧
      Call.marks made =
        Call.marks (calls (nameLabel name ++ numberLabel number)) ++ shown ++ [(Bytes.newline, false)] ∧
      shown.map Prod.fst = line ∧
      (spans.Pairwise (·.start ≤ ·.start) → ∀ i < line.length,
        shown[i]?.map Prod.snd = some (decide (∃ span ∈ spans, span.start ≤ i ∧ i < span.stop))) := by
  have hmade : (Guarded.matchLine name number line spans : Outcome ε _) =
      .answer (calls (Output.matchLine name number line spans)) := by
    rw [Guarded.matchLine, Guarded.highlight_eq line spans (Nat.zero_le _), Outcome.answer_bind, Output.matchLine,
      calls_append _ [lineEnd], calls_append _ (Output.highlight line 0 spans)]
    rfl
  refine ⟨_, (Output.highlight line 0 spans).flatMap Stroke.marks, hmade, fun color => flatMap_render_calls color _,
    (render_false _).trans (text_matchLine name number line spans), ?_, ?_, fun hsorted i hi => ?_⟩
  · rw [marks_calls, marks_calls, Output.matchLine, List.flatMap_append, List.flatMap_append]
    rfl
  · rw [← marks_calls, Call.map_fst_marks, flatMap_render_calls, render_false, text_highlight, List.drop_zero]
  · rw [marks_highlight hsorted (Nat.zero_le _), tested, List.getElem?_mapIdx, List.drop_zero,
      List.getElem?_eq_getElem hi, Option.map_some, Option.map_some, Nat.zero_add]
    rfl

/-- On the line `abcde`, two spans overlap and one begins behind the end of the line. -/
theorem Guarded.matchLine_writes_line_overlap :
    let line : Bytes := [97, 98, 99, 100, 101]
    let spans : List Span := [⟨1, 3⟩, ⟨2, 4⟩, ⟨7, 9⟩]
    spans.Pairwise (·.start ≤ ·.start) ∧ ∃ made shown,
      (Guarded.matchLine none none line spans : Outcome Empty _) = .answer made ∧
      Call.marks made = shown ++ [(Bytes.newline, false)] ∧ shown.map Prod.fst = line ∧
      shown[0]?.map Prod.snd = some false ∧ shown[3]?.map Prod.snd = some true ∧
      shown[4]?.map Prod.snd = some false := by
  intro line spans
  have hsorted : spans.Pairwise (·.start ≤ ·.start) := by decide
  obtain ⟨made, shown, hmade, -, -, hmarks, hline, hshown⟩ :=
    @Guarded.matchLine_writes_line Empty none none line spans
  exact ⟨hsorted, made, shown, hmade, hmarks, hline, hshown hsorted 0 (by decide), hshown hsorted 3 (by decide),
    hshown hsorted 4 (by decide)⟩

end Output

end TrigramGrep
