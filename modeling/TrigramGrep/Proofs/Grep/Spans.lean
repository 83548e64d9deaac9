import TrigramGrep.Proofs.Grep.Lines
import TrigramGrep.Proofs.Grep.Switches

/-!
# What is highlighted on a line

The spans of a line are found by a loop that goes on behind a match, and one position further behind an empty one.
Said without a bound on its steps (`Grep.Scan`), the loop still comes to an end, because every step moves on, and
the spans that it has gathered by then are those of the line.

## Shape of the proof

* The match that a search finds is the preferred one at its start, and there is none between the position where the
  search began and this start (`Matcher.first_eq_some`).
* So what a loop from a position on has gathered are matches, one behind the other, and no other match that is not
  empty starts at or after the position outside of them (`Grep.Highlights`, by induction on the steps of the loop).
* The first match of a line is found by the search for lines, which begins at the beginning of a line; so no match
  starts before it on its own line (`Grep.OnLine`, by induction on the hits).
-/

namespace TrigramGrep

/-! ## The first match -/

namespace Matcher

variable {preferred : Buffer → Nat → Option Nat} {buffer : Buffer} {position : Nat} {found : Span}

/-- No match ends before it starts. -/
def Forward (preferred : Buffer → Nat → Option Nat) : Prop :=
  ∀ buffer start stop, preferred buffer start = some stop → start ≤ stop

/-- In a range of starts, the first match is the preferred one at its start, and no match starts before. -/
theorem firstIn_eq_some {start count : Nat} (h : firstIn preferred buffer start count = some found) :
    preferred buffer found.start = some found.stop ∧
      ∀ p, start ≤ p → p < found.start → preferred buffer p = none := by
  induction count generalizing start with
  | zero => cases h
  | succ count ih =>
    rw [firstIn, List.range'_succ, List.findSome?_cons] at h
    split at h
    · next span hspan =>
      obtain ⟨stop, hstop, rfl⟩ := Option.map_eq_some_iff.mp (hspan.trans h)
      exact ⟨hstop, fun p hlow hhigh => absurd hhigh (Nat.not_lt_of_le hlow)⟩
    · next hnone =>
      obtain ⟨hfound, hbefore⟩ := ih h
      refine ⟨hfound, fun p hlow hhigh => ?_⟩
      rcases Nat.lt_or_eq_of_le hlow with hlt | rfl
      · exact hbefore p hlt hhigh
      · exact Option.map_eq_none_iff.mp hnone

/-- A search finds the preferred match at the first start from its position on. -/
theorem first_eq_some (hposition : position ≤ buffer.size) (h : first preferred buffer position = some found) :
    position ≤ found.start ∧ found.start ≤ buffer.size ∧ preferred buffer found.start = some found.stop ∧
      ∀ p, position ≤ p → p < found.start → preferred buffer p = none := by
  obtain ⟨hlow, hhigh⟩ := start_of_firstIn h
  obtain ⟨hfound, hbefore⟩ := firstIn_eq_some h
  exact ⟨hlow, by omega, hfound, hbefore⟩

/-- A search that finds nothing has passed no match. -/
theorem first_eq_none (h : first preferred buffer position = none) {p : Nat} (hlow : position ≤ p)
    (hhigh : p ≤ buffer.size) : preferred buffer p = none := by
  have hp := List.findSome?_eq_none_iff.mp h p (List.mem_range'_1.mpr ⟨hlow, by omega⟩)
  exact Option.map_eq_none_iff.mp hp

end Matcher

namespace Grep

variable {find : Matcher} {preferred : Buffer → Nat → Option Nat} {buffer : Buffer} {line : Span}
  {position : Nat}

/-! ## The loop over the matches of a line -/

/-- The match that is found from a position of a line on, if it starts on the line. -/
def nextOnLine (find : Matcher) (buffer : Buffer) (line : Span) (position : Nat) : Option Span :=
  if position < line.stop then (find buffer position).filter (·.start < line.stop) else none

/-- What is highlighted of a match: nothing if it is empty. -/
def shownOf (line found : Span) : List Span :=
  if found.start < found.stop then [withinLine line found] else []

/-- The loop from a position on, as many steps as it takes, ends with spans. -/
inductive Scan (find : Matcher) (buffer : Buffer) (line : Span) : Nat → List Span → Prop
  | done {position : Nat} (h : nextOnLine find buffer line position = none) : Scan find buffer line position []
  | step {position : Nat} {found : Span} {spans : List Span}
      (h : nextOnLine find buffer line position = some found)
      (rest : Scan find buffer line (afterMatch found) spans) :
      Scan find buffer line position (shownOf line found ++ spans)

/-- The loop can end in one way only. -/
theorem Scan.unique {spans others : List Span} (h : Scan find buffer line position spans)
    (h' : Scan find buffer line position others) : spans = others := by
  induction h generalizing others with
  | done hnone =>
    cases h' with
    | done _ => rfl
    | step hsome _ => cases hnone.symm.trans hsome
  | step hsome _ ih =>
    cases h' with
    | done hnone => cases hnone.symm.trans hsome
    | step hsome' rest =>
      cases Option.some.inj (hsome.symm.trans hsome')
      rw [ih rest]

theorem spansFrom_succ (find : Matcher) (buffer : Buffer) (line : Span) (fuel position : Nat) :
    spansFrom find buffer line (fuel + 1) position =
      match nextOnLine find buffer line position with
      | none => []
      | some found => shownOf line found ++ spansFrom find buffer line fuel (afterMatch found) := by
  rw [spansFrom, nextOnLine]
  split
  · cases find buffer position with
    | none => rfl
    | some found =>
      dsimp only
      by_cases hstart : line.stop ≤ found.start
      · have hbehind : (some found).filter (·.start < line.stop) = none := by simpa using hstart
        rw [if_pos hstart, hbehind]
      · have hthere : (some found).filter (·.start < line.stop) = some found := by simpa using hstart
        rw [if_neg hstart, hthere]
        dsimp only
        rw [shownOf, afterMatch]
        split <;> rfl
  · rfl

/-- A match that the loop takes starts on the line, and no match before it is passed. -/
theorem nextOnLine_eq_some (hfind : find.FindsFirst preferred) (hline : line.stop ≤ buffer.size) {found : Span}
    (h : nextOnLine find buffer line position = some found) :
    position ≤ found.start ∧ found.start < line.stop ∧ preferred buffer found.start = some found.stop ∧
      ∀ p, position ≤ p → p < found.start → preferred buffer p = none := by
  rw [nextOnLine] at h
  split at h
  · next hposition =>
    have hsize : position ≤ buffer.size := by omega
    obtain ⟨hfound, hstart⟩ := Option.filter_eq_some_iff.mp h
    rw [hfind buffer position hsize] at hfound
    obtain ⟨hlow, -, hpreferred, hbefore⟩ := Matcher.first_eq_some hsize hfound
    exact ⟨hlow, of_decide_eq_true hstart, hpreferred, hbefore⟩
  · cases h

/-- When the loop ends, no match starts on what is left of the line. -/
theorem nextOnLine_eq_none (hfind : find.FindsFirst preferred) (hline : line.stop ≤ buffer.size)
    (h : nextOnLine find buffer line position = none) {p : Nat} (hlow : position ≤ p) (hhigh : p < line.stop) :
    preferred buffer p = none := by
  have hsize : position ≤ buffer.size := by omega
  rw [nextOnLine, if_pos (by omega), hfind buffer position hsize] at h
  cases hfound : Matcher.first preferred buffer position with
  | none => exact Matcher.first_eq_none hfound hlow (by omega)
  | some found =>
    obtain ⟨-, -, -, hbefore⟩ := Matcher.first_eq_some hsize hfound
    rw [hfound, Option.filter_some] at h
    have hstart : line.stop ≤ found.start := by simpa using h
    exact hbefore p hlow (by omega)

/-- A match leaves less of the line. -/
theorem lt_afterMatch {found : Span} (h : position ≤ found.start) (hforward : found.start ≤ found.stop) :
    position < afterMatch found := by
  rw [afterMatch]
  split <;> omega

/-- **The loop comes to an end**, and the steps that are allowed for are enough. -/
theorem scan_spansFrom (hfind : find.FindsFirst preferred) (hforward : Matcher.Forward preferred)
    (hline : line.stop ≤ buffer.size) {fuel : Nat} (hfuel : line.stop - position < fuel) :
    Scan find buffer line position (spansFrom find buffer line fuel position) := by
  induction fuel generalizing position with
  | zero => exact absurd hfuel (Nat.not_lt_zero _)
  | succ fuel ih =>
    rw [spansFrom_succ]
    cases hnext : nextOnLine find buffer line position with
    | none => exact .done hnext
    | some found =>
      obtain ⟨hlow, hhigh, hpreferred, -⟩ := nextOnLine_eq_some hfind hline hnext
      have hmoved := lt_afterMatch hlow (hforward _ _ _ hpreferred)
      exact .step hnext (ih (by omega))

/-! ## What the loop gathers -/

/-- A position of the buffer lies in a span of a line. -/
def Covers (line : Span) (span : Span) (p : Nat) : Prop :=
  line.start + span.start ≤ p ∧ p < line.start + span.stop

/-- What spans say of the matches that start on a line at or after a position: each is one of them, they stand one
behind the other, and outside of them only empty ones start. -/
structure Highlights (preferred : Buffer → Nat → Option Nat) (buffer : Buffer) (line : Span) (position : Nat)
    (spans : List Span) : Prop where
  exists_match : ∀ span ∈ spans, ∃ found : Span, preferred buffer found.start = some found.stop ∧
    position ≤ found.start ∧ found.start < found.stop ∧ found.start < line.stop ∧ span = withinLine line found
  pairwise : spans.Pairwise fun a b => a.start < b.start ∧ a.stop ≤ b.start
  complete : ∀ p, position ≤ p → p < line.stop → (∀ span ∈ spans, ¬ Covers line span p) →
    ∀ stop, preferred buffer p = some stop → stop = p

/-- The span of a match that starts on a line, seen in the buffer. -/
theorem add_withinLine {found : Span} (hstart : line.start ≤ found.start) (hstop : found.start ≤ line.stop)
    (hforward : found.start ≤ found.stop) :
    line.start + (withinLine line found).start = found.start ∧
      line.start + (withinLine line found).stop = min found.stop line.stop := by
  simp only [withinLine]
  omega

/-- The bytes of a match are covered by its span, as far as the line goes. -/
theorem covers_withinLine {found : Span} {p : Nat} (hline : line.start ≤ found.start) (hlow : found.start ≤ p)
    (hhigh : p < found.stop) (hp : p < line.stop) : Covers line (withinLine line found) p := by
  obtain ⟨hstart, hstop⟩ := add_withinLine hline (by omega) (by omega)
  rw [Covers]
  omega

/-- Where a search has found a match, the positions that it has passed are empty matches or none, and those of the
match are covered; all others are still to come. -/
theorem passed_of_match {found : Span} {p stop : Nat} (hstart : line.start ≤ found.start)
    (hpreferred : preferred buffer found.start = some found.stop) (hforward : found.start ≤ found.stop)
    (hbefore : ∀ p, position ≤ p → p < found.start → preferred buffer p = none) (hp : position ≤ p)
    (hline : p < line.stop) (hstop : preferred buffer p = some stop) :
    stop = p ∨ (found.start < found.stop ∧ Covers line (withinLine line found) p) ∨ afterMatch found ≤ p := by
  rcases Nat.lt_or_ge p found.start with hlt | hge
  · rw [hbefore p hp hlt] at hstop
    cases hstop
  rw [afterMatch]
  by_cases hne : found.start < found.stop
  · rw [if_pos hne]
    rcases Nat.lt_or_ge p found.stop with hinside | hbehind
    · exact .inr (.inl ⟨hne, covers_withinLine hstart hge hinside hline⟩)
    · exact .inr (.inr hbehind)
  · rw [if_neg hne]
    rcases Nat.lt_or_eq_of_le hge with hbehind | rfl
    · exact .inr (.inr (by omega))
    · have heq : found.stop = stop := Option.some.inj (hpreferred.symm.trans hstop)
      exact .inl (by omega)

/-- The span of a match stands before that of a match behind it. -/
theorem withinLine_lt {found other : Span} (hstart : line.start ≤ found.start)
    (hforward : found.start ≤ found.stop) (hother : afterMatch found ≤ other.start) :
    (withinLine line found).start < (withinLine line other).start ∧
      (withinLine line found).stop ≤ (withinLine line other).start := by
  rw [afterMatch] at hother
  simp only [withinLine]
  split at hother <;> omega

/-- A step of the loop: a match in front of what the rest of the loop gathers. -/
theorem Highlights.cons {found : Span} {spans : List Span} (hstart : line.start ≤ found.start)
    (hlow : position ≤ found.start) (hhigh : found.start < line.stop)
    (hpreferred : preferred buffer found.start = some found.stop) (hforward : found.start ≤ found.stop)
    (hbefore : ∀ p, position ≤ p → p < found.start → preferred buffer p = none)
    (h : Highlights preferred buffer line (afterMatch found) spans) :
    Highlights preferred buffer line position (shownOf line found ++ spans) where
  exists_match span hspan := by
    rcases List.mem_append.mp hspan with hspan | hspan
    · rw [shownOf] at hspan
      split at hspan
      · next hne => exact ⟨found, hpreferred, hlow, hne, hhigh, List.mem_singleton.mp hspan⟩
      · exact absurd hspan List.not_mem_nil
    · obtain ⟨other, hother, hposition, hrest⟩ := h.exists_match span hspan
      have hmoved := lt_afterMatch hlow hforward
      exact ⟨other, hother, by omega, hrest⟩
  pairwise := by
    rw [shownOf]
    split
    · next hne =>
      refine List.pairwise_cons.mpr ⟨fun span hspan => ?_, h.pairwise⟩
      -- what follows starts behind the match
      obtain ⟨other, -, hposition, -, -, rfl⟩ := h.exists_match span hspan
      exact withinLine_lt hstart hforward hposition
    · exact h.pairwise
  complete p hp hpline huncovered stop hstop := by
    rcases passed_of_match hstart hpreferred hforward hbefore hp hpline hstop with heq | ⟨hne, hcovers⟩ | hbehind
    · exact heq
    · refine absurd hcovers (huncovered _ (List.mem_append_left _ ?_))
      rw [shownOf, if_pos hne]
      exact List.mem_cons_self
    · exact h.complete p hbehind hpline (fun span hspan => huncovered span (List.mem_append_right _ hspan)) stop hstop

/-- What a loop has gathered at its end. -/
theorem Scan.highlights (hfind : find.FindsFirst preferred) (hforward : Matcher.Forward preferred)
    (hline : line.stop ≤ buffer.size) {spans : List Span} (h : Scan find buffer line position spans)
    (hposition : line.start ≤ position) : Highlights preferred buffer line position spans := by
  induction h with
  | done hnone =>
    refine ⟨fun span hspan => absurd hspan List.not_mem_nil, .nil, fun p hlow hhigh _ stop hstop => ?_⟩
    rw [nextOnLine_eq_none hfind hline hnone hlow hhigh] at hstop
    cases hstop
  | step hsome _ ih =>
    obtain ⟨hlow, hhigh, hpreferred, hbefore⟩ := nextOnLine_eq_some hfind hline hsome
    have hle := hforward _ _ _ hpreferred
    have hmoved := lt_afterMatch hlow hle
    exact (ih (by omega)).cons (by omega) hlow hhigh hpreferred hle hbefore

/-! ## Selected lines -/

end Grep

namespace Buffer

variable {buffer : Buffer} {position p : Nat}

theorem lineStart_le (buffer : Buffer) (position : Nat) : lineStart buffer position ≤ position := by
  induction position with
  | zero => exact Nat.le_refl 0
  | succ position ih =>
    rw [lineStart]
    split
    · exact Nat.le_refl _
    · exact Nat.le_succ_of_le ih

/-- The line of a later position does not begin earlier. -/
theorem lineStart_mono (h : position ≤ p) : lineStart buffer position ≤ lineStart buffer p := by
  induction p with
  | zero => rw [Nat.le_zero.mp h]
  | succ p ih =>
    rcases Nat.lt_succ_iff_lt_or_eq.mp (Nat.lt_succ_of_le h) with hlt | rfl
    · have hstart := lineStart_le buffer position
      have := ih (Nat.le_of_lt_succ hlt)
      rw [lineStart]
      split <;> omega
    · exact Nat.le_refl _

/-- A line ends at a newline or with the buffer, not before the position it is looked for from. -/
theorem lineStop_spec (h : position ≤ buffer.size) :
    position ≤ lineStop buffer position ∧ lineStop buffer position ≤ buffer.size ∧
      (lineStop buffer position = buffer.size ∨ newlineAt buffer (lineStop buffer position) = true) := by
  fun_induction lineStop buffer position with
  | case1 position hlt hnewline => exact ⟨Nat.le_refl _, h, .inr hnewline⟩
  | case2 position hlt hnewline ih =>
    obtain ⟨hlow, hrest⟩ := ih hlt
    exact ⟨Nat.le_of_succ_le hlow, hrest⟩
  | case3 position hle => exact ⟨h, Nat.le_refl _, .inl rfl⟩

end Buffer

namespace Grep

variable {find : Matcher} {preferred : Buffer → Nat → Option Nat} {buffer : Buffer} {position : Nat} {hit : Hit}

/-- A hit is a line with the first match that starts on it. -/
structure OnLine (preferred : Buffer → Nat → Option Nat) (buffer : Buffer) (hit : Hit) : Prop where
  start_le : hit.line.start ≤ hit.first.start
  le_stop : hit.first.start ≤ hit.line.stop
  stop_le : hit.line.stop ≤ buffer.size
  preferred_eq : preferred buffer hit.first.start = some hit.first.stop
  before : ∀ p, hit.line.start ≤ p → p < hit.first.start → preferred buffer p = none

/-- A search from the beginning of a line on finds a line with its first match, and a line begins behind it unless
it is the last one. -/
theorem onLine_of_nextHit (hfind : find.FindsFirst preferred) (hbegins : buffer.lineStart position = position)
    (h : nextHit find buffer position = some hit) :
    OnLine preferred buffer hit ∧
      (hit.line.stop = buffer.size ∨ buffer.lineStart (hit.line.stop + 1) = hit.line.stop + 1) := by
  have hline := line_of_nextHit h
  rw [nextHit] at h
  split at h
  · next hposition =>
    rw [hfind buffer position hposition] at h
    split at h
    · cases h
    · next found hfound =>
      split at h <;> cases h
      obtain ⟨hlow, hhigh, hpreferred, hbefore⟩ := Matcher.first_eq_some hposition hfound
      obtain ⟨hstop, hsize, hnewline⟩ := Buffer.lineStop_spec hhigh
      -- the line of the match does not begin before the search
      have hstart : position ≤ buffer.lineStart found.start := by
        have hmono : buffer.lineStart position ≤ buffer.lineStart found.start := Buffer.lineStart_mono hlow
        omega
      refine ⟨⟨buffer.lineStart_le found.start, hstop, hsize, hpreferred, fun p hp => hbefore p ?_⟩, ?_⟩
      · exact Nat.le_trans hstart hp
      · exact hnewline.imp_right fun hnewline => by rw [Buffer.lineStart, if_pos hnewline]
  · cases h

theorem onLine_of_mem_hitsFrom (hfind : find.FindsFirst preferred) {fuel : Nat}
    (hbegins : buffer.size < position ∨ buffer.lineStart position = position)
    (h : hit ∈ hitsFrom find buffer fuel position) : OnLine preferred buffer hit := by
  induction fuel generalizing position with
  | zero => exact absurd h List.not_mem_nil
  | succ fuel ih =>
    rcases hbegins with hbehind | hbegins
    · rw [hitsFrom_of_lt hbehind] at h
      exact absurd h List.not_mem_nil
    · rw [hitsFrom] at h
      split at h
      · exact absurd h List.not_mem_nil
      · next first hfirst =>
        obtain ⟨hfirst, hnext⟩ := onLine_of_nextHit hfind hbegins hfirst
        rcases List.mem_cons.mp h with rfl | hrest
        · exact hfirst
        · exact ih (hnext.imp_left fun heq => by omega) hrest

/-- A hit of a search is a line with its first match. -/
theorem onLine_of_mem_hits (hfind : find.FindsFirst preferred) (h : hit ∈ hits find buffer) :
    OnLine preferred buffer hit :=
  onLine_of_mem_hitsFrom hfind (.inr rfl) h

/-- A span of a match that starts on the line lies on it, and if it is not empty it is the match up to the end of the
line. -/
theorem withinLine_spec {line found span : Span} (hstart : line.start ≤ found.start)
    (hstop : found.start ≤ line.stop) (hforward : found.start ≤ found.stop)
    (hpreferred : preferred buffer found.start = some found.stop) (hspan : span = withinLine line found) :
    span.start ≤ span.stop ∧ line.start + span.stop ≤ line.stop ∧
      (span.start < span.stop → ∃ stop, preferred buffer (line.start + span.start) = some stop ∧
        line.start + span.start < stop ∧ line.start + span.stop = min stop line.stop) := by
  obtain ⟨hlow, hhigh⟩ := add_withinLine hstart hstop hforward
  rw [← hspan] at hlow hhigh
  refine ⟨by omega, by omega, fun hne => ⟨found.stop, ?_, by omega, hhigh⟩⟩
  rw [hlow]
  exact hpreferred

/-- **Highlighting is complete and exact.** For a matcher that gives the preferred match at the least start, take the
spans of a line that a search selects.  They are what the loop over the matches of the line, however many steps it
takes, has gathered when it ends behind the first match.  They ascend, one ends before the next one starts, and they
lie on the line; each that is not empty is a match that starts on the line and is not empty, up to the end of the
line.  At every position of the line outside of them starts no match, or an empty one. -/
theorem spans_of_mem_hits {find : Matcher} {preferred : Buffer → Nat → Option Nat}
    (hfind : find.FindsFirst preferred) (hforward : Matcher.Forward preferred) {buffer : Buffer} {hit : Hit}
    (hhit : hit ∈ hits find buffer) :
    let line := hit.line
    let spans := spans find buffer hit
    (∀ rest, Scan find buffer line (afterMatch hit.first) rest ↔ spans = withinLine line hit.first :: rest) ∧
      (spans.Pairwise fun a b => a.start < b.start ∧ a.stop ≤ b.start) ∧
      (∀ span ∈ spans, span.start ≤ span.stop ∧ line.start + span.stop ≤ line.stop ∧
        (span.start < span.stop → ∃ stop, preferred buffer (line.start + span.start) = some stop ∧
          line.start + span.start < stop ∧ line.start + span.stop = min stop line.stop)) ∧
      ∀ p, line.start ≤ p → p < line.stop → (∀ span ∈ spans, ¬ Covers line span p) →
        ∀ stop, preferred buffer p = some stop → stop = p := by
  intro line spans
  have honline := onLine_of_mem_hits hfind hhit
  have hfirst := hforward _ _ _ honline.preferred_eq
  have hmoved : hit.first.start < afterMatch hit.first := lt_afterMatch (Nat.le_refl _) hfirst
  have hstart := honline.start_le
  have hscan : Scan find buffer line (afterMatch hit.first)
      (spansFrom find buffer line (buffer.size + 1) (afterMatch hit.first)) := by
    have hsize := honline.stop_le
    exact scan_spansFrom hfind hforward hsize (by omega)
  have hrest := hscan.highlights hfind hforward honline.stop_le (by omega)
  have hspans : spans = withinLine line hit.first ::
      spansFrom find buffer line (buffer.size + 1) (afterMatch hit.first) := rfl
  generalize spansFrom find buffer line (buffer.size + 1) (afterMatch hit.first) = gathered at *
  rw [hspans]
  refine ⟨fun rest => ⟨fun hother => ?_, fun heq => ?_⟩, ?_, fun span hspan => ?_, ?_⟩
  · rw [hscan.unique hother]
  · rw [← (List.cons.inj heq).2]
    exact hscan
  · refine List.pairwise_cons.mpr ⟨fun span hspan => ?_, hrest.pairwise⟩
    obtain ⟨other, -, hbehind, -, -, rfl⟩ := hrest.exists_match span hspan
    exact withinLine_lt hstart hfirst hbehind
  · rcases List.mem_cons.mp hspan with hspan | hspan
    · exact withinLine_spec hstart honline.le_stop hfirst honline.preferred_eq hspan
    · obtain ⟨found, hfound, hbehind, hne, hhigh, hspan⟩ := hrest.exists_match span hspan
      have hlow : hit.first.start ≤ found.start := by omega
      exact withinLine_spec (Nat.le_trans hstart hlow) (Nat.le_of_lt hhigh) (Nat.le_of_lt hne) hfound hspan
  · intro p hlow hhigh huncovered stop hstop
    obtain ⟨hnot, hothers⟩ := List.forall_mem_cons.mp huncovered
    rcases passed_of_match hstart honline.preferred_eq hfirst honline.before hlow hhigh hstop with
      heq | ⟨-, hcovers⟩ | hbehind
    · exact heq
    · exact absurd hcovers hnot
    · exact hrest.complete p hbehind hhigh hothers stop hstop

/-- On the line `axbbb`, the byte `x` is an empty match and two bytes from a `b` on are one, so that the last match
goes on behind the newline. -/
theorem spans_of_mem_hits_clipped :
    let preferred : Buffer → Nat → Option Nat := fun buffer start =>
      if buffer[start]? = some 98 then some (min (start + 2) buffer.size)
      else if buffer[start]? = some 120 then some start else none
    let buffer : Buffer := #[97, 120, 98, 98, 98, 10, 98]
    let hit : Hit := ⟨⟨0, 5⟩, ⟨1, 1⟩⟩
    hit ∈ hits (Matcher.first preferred) buffer ∧
      spans (Matcher.first preferred) buffer hit = [⟨1, 1⟩, ⟨2, 4⟩, ⟨4, 5⟩] ∧
      Scan (Matcher.first preferred) buffer ⟨0, 5⟩ 2 [⟨2, 4⟩, ⟨4, 5⟩] := by
  intro preferred buffer hit
  have hforward : Matcher.Forward preferred := by
    intro buffer start stop h
    simp only [preferred] at h
    split at h
    · next hbyte =>
      have hsize := (Array.getElem?_eq_some_iff.mp hbyte).1
      cases h
      omega
    · split at h <;> cases h
      exact Nat.le_refl _
  have hhit : hit ∈ hits (Matcher.first preferred) buffer := by
    have hhits : hits (Matcher.first preferred) buffer = [hit, ⟨⟨6, 7⟩, ⟨6, 7⟩⟩] := by cbv
    rw [hhits]
    exact List.mem_cons_self
  have hspans : spans (Matcher.first preferred) buffer hit = [⟨1, 1⟩, ⟨2, 4⟩, ⟨4, 5⟩] := by cbv
  obtain ⟨hscan, -⟩ := spans_of_mem_hits (Matcher.findsFirst_first preferred) hforward hhit
  exact ⟨hhit, hspans, (hscan _).mpr hspans⟩

end Grep

end TrigramGrep
