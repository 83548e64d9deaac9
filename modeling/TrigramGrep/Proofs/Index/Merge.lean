import Mathlib.Data.List.TakeWhile
import TrigramGrep.Index.Run
import TrigramGrep.Proofs.SortedLists

/-!
# Merging runs

However many runs wait in the queue, what comes out of it is the strictly ascending list of exactly the
pairs that wait in it.

## Shape of the proof

A queue is ordered (`Run.Ordered`) when its runs ascend and none of them begins above a pair of a later
one, so the first pair of all is the least.  Putting back the rest of a run keeps the order.  The invariant
of the drain is that no waiting pair lies below the pair emitted last (`Run.drain_spec`).
-/

namespace TrigramGrep.Index

namespace Run

/-! ## Runs -/

/-- The run of a heap of pairs has the pairs of the heap. -/
@[simp] theorem mem_ofPairs {p : Pair} {pairs : List Pair} : p ∈ ofPairs pairs ↔ p ∈ pairs := by
  rw [ofPairs, SortedLists.mem_eraseReps, List.mem_mergeSort]

/-- The run of a heap of pairs ascends strictly. -/
theorem pairwise_ofPairs (pairs : List Pair) : (ofPairs pairs).Pairwise (· < ·) := by
  have hsorted := SortedLists.pairwise_eraseReps_mergeSort (fun p q : Pair => decide (p ≤ q))
    (fun p q r hpq hqr => by simpa using UInt64.le_trans (by simpa using hpq) (by simpa using hqr))
    (fun p q => by simpa using UInt64.le_total p q)
    (fun p q hpq hqp => UInt64.le_antisymm (by simpa using hpq) (by simpa using hqp)) pairs
  refine hsorted.imp fun {p q} ⟨hle, hne⟩ => ?_
  exact UInt64.lt_of_le_of_ne (by simpa using hle) hne

/-! ## The queue -/

/-- A queue whose runs ascend and stand in the order of their first pairs. -/
structure Ordered (queue : List Run) : Prop where
  runs : ∀ run ∈ queue, run.Pairwise (· < ·)
  heads : queue.Pairwise fun run later => ∀ p ∈ run.head?, ∀ q ∈ later, p ≤ q

theorem ordered_nil : Ordered [] := ⟨by simp, .nil⟩

namespace Ordered

variable {run : Run} {queue : List Run} {p : Pair}

theorem tail (h : Ordered (run :: queue)) : Ordered queue :=
  ⟨fun other hother => h.runs other (List.mem_cons_of_mem _ hother), h.heads.of_cons⟩

/-- The first pair of the first run is the least of all. -/
theorem head_le (h : Ordered ((p :: run) :: queue)) {q : Pair} (hq : q ∈ run ++ queue.flatten) :
    p ≤ q := by
  rcases List.mem_append.mp hq with hrun | hqueue
  · have := List.rel_of_pairwise_cons (h.runs _ List.mem_cons_self) hrun
    exact UInt64.le_of_lt this
  · obtain ⟨later, hlater, hmem⟩ := List.mem_flatten.mp hqueue
    exact List.rel_of_pairwise_cons h.heads hlater p rfl q hmem

end Ordered

/-- A run put into a queue adds its pairs and takes none away. -/
theorem mem_flatten_enqueue {p : Pair} (run : Run) (queue : List Run) :
    p ∈ (enqueue run queue).flatten ↔ p ∈ run ∨ p ∈ queue.flatten := by
  cases run with
  | nil => simp [enqueue]
  | cons q rest =>
    have hsplit : p ∈ queue.flatten ↔
        p ∈ (queue.takeWhile (enqueue.startsAtMost q)).flatten ∨
          p ∈ (queue.dropWhile (enqueue.startsAtMost q)).flatten := by
      rw [← List.mem_append, ← List.flatten_append, List.takeWhile_append_dropWhile]
    rw [hsplit, enqueue, List.flatten_append, List.flatten_cons]
    simp only [List.mem_append]
    exact or_left_comm

/-- In an ordered queue all pairs behind the place of a run lie above its first pair. -/
theorem lt_of_mem_dropWhile {queue : List Run} (h : Ordered queue) {p q : Pair}
    (hq : q ∈ (queue.dropWhile (enqueue.startsAtMost p)).flatten) : p < q := by
  induction queue with
  | nil => simp at hq
  | cons run queue ih =>
    rw [List.dropWhile_cons] at hq
    split at hq
    · exact ih h.tail hq
    · next hstart =>
      cases run with
      | nil => simp [enqueue.startsAtMost] at hstart
      | cons first rest =>
        have hp : p < first := by simpa [enqueue.startsAtMost] using hstart
        rw [List.flatten_cons, List.cons_append, List.mem_cons] at hq
        rcases hq with rfl | hq
        · exact hp
        · exact UInt64.lt_of_lt_of_le hp (h.head_le hq)

/-- A run put into its place leaves the queue ordered. -/
theorem Ordered.enqueue {run : Run} {queue : List Run} (hrun : run.Pairwise (· < ·))
    (h : Ordered queue) : Ordered (enqueue run queue) := by
  cases run with
  | nil => exact h
  | cons p rest =>
    have hwhole := List.takeWhile_append_dropWhile (p := enqueue.startsAtMost p) (l := queue)
    have hmem : ∀ other,
        other ∈ queue.takeWhile (enqueue.startsAtMost p) ∨
          other ∈ queue.dropWhile (enqueue.startsAtMost p) → other ∈ queue := by
      intro other hother
      rw [← List.mem_append, hwhole] at hother
      exact hother
    have hheads := h.heads
    rw [← hwhole, List.pairwise_append] at hheads
    obtain ⟨hbefore, hbehind, hacross⟩ := hheads
    rw [Run.enqueue]
    refine ⟨fun other hother => ?_, ?_⟩
    · rw [List.mem_append, List.mem_cons] at hother
      rcases hother with hother | rfl | hother
      · exact h.runs other (hmem other (.inl hother))
      · exact hrun
      · exact h.runs other (hmem other (.inr hother))
    refine List.pairwise_append.mpr ⟨hbefore, List.pairwise_cons.mpr ⟨?_, hbehind⟩, ?_⟩
    · -- behind the new run every pair lies above its first one
      rintro later hlater first hfirst q hq
      obtain rfl : p = first := by simpa using hfirst
      exact UInt64.le_of_lt (lt_of_mem_dropWhile h (List.mem_flatten.mpr ⟨later, hlater, hq⟩))
    · -- the runs before it begin at or below its first pair
      intro earlier hearlier other hother first hfirst q hq
      rcases List.mem_cons.mp hother with rfl | hother
      · have hle : first ≤ p := by
          have := List.mem_takeWhile_imp hearlier
          cases earlier with
          | nil => simp at hfirst
          | cons head tail =>
            obtain rfl : head = first := by simpa using hfirst
            simpa [enqueue.startsAtMost] using this
        rcases List.mem_cons.mp hq with rfl | hq
        · exact hle
        · exact UInt64.le_trans hle (UInt64.le_of_lt (List.rel_of_pairwise_cons hrun hq))
      · exact hacross earlier hearlier other hother first hfirst q hq

/-! ## The drain -/

/-- The invariant of the drain: what was emitted ascends, and no waiting pair lies below the last of it.
Then all that comes out ascends, and it is what was emitted with what waits. -/
theorem drain_spec {queue : List Run} {last : Option Pair} (done : List Pair) (h : Ordered queue)
    (hlast : last = done.head?) (hdone : done.Pairwise (· > ·))
    (hbelow : ∀ q ∈ last, ∀ p ∈ queue.flatten, q ≤ p) :
    (drain queue last done).Pairwise (· < ·) ∧
      ∀ p, p ∈ drain queue last done ↔ p ∈ done ∨ p ∈ queue.flatten := by
  fun_induction drain queue last done with
  | case1 last done =>
    exact ⟨List.pairwise_reverse.mpr hdone, fun p => by simp⟩
  | case2 last done rest ih =>
    exact ih h.tail hlast hdone hbelow
  | case3 done p run rest ih =>
    -- the pair that was emitted last comes once more and is left out
    have hrest : Ordered (enqueue run rest) :=
      h.tail.enqueue (List.Pairwise.of_cons (h.runs _ List.mem_cons_self))
    have hmem : ∀ q, q ∈ (enqueue run rest).flatten → q ∈ ((p :: run) :: rest).flatten := by
      intro q hq
      rw [mem_flatten_enqueue] at hq
      simp only [List.flatten_cons, List.cons_append, List.mem_cons, List.mem_append]
      exact .inr hq
    obtain ⟨hsorted, hiff⟩ := ih hrest hlast hdone fun q hq r hr => hbelow q hq r (hmem r hr)
    refine ⟨hsorted, fun q => ?_⟩
    have hp : p ∈ done := List.mem_of_mem_head? hlast.symm
    rw [hiff, mem_flatten_enqueue]
    simp only [List.flatten_cons, List.cons_append, List.mem_cons, List.mem_append]
    constructor
    · rintro (hq | hq)
      · exact .inl hq
      · exact .inr (.inr hq)
    · rintro (hq | rfl | hq)
      · exact .inl hq
      · exact .inl hp
      · exact .inr hq
  | case4 last done p run rest hne ih =>
    have hrest : Ordered (enqueue run rest) :=
      h.tail.enqueue (List.Pairwise.of_cons (h.runs _ List.mem_cons_self))
    have habove : ∀ q ∈ done, q < p := by
      intro q hq
      cases done with
      | nil => simp at hq
      | cons first done =>
        obtain rfl : last = some first := hlast
        have hle : first ≤ p := hbelow first rfl p (by simp)
        have hlt : first < p := UInt64.lt_of_le_of_ne hle fun heq => hne (by rw [heq])
        rcases List.mem_cons.mp hq with rfl | hq
        · exact hlt
        · exact UInt64.lt_trans (List.rel_of_pairwise_cons hdone hq) hlt
    have hnext : ∀ q ∈ some p, ∀ r ∈ (enqueue run rest).flatten, q ≤ r := by
      rintro q hq r hr
      obtain rfl : p = q := by simpa using hq
      rw [mem_flatten_enqueue, ← List.mem_append] at hr
      exact h.head_le hr
    obtain ⟨hsorted, hiff⟩ := ih hrest rfl (List.pairwise_cons.mpr ⟨habove, hdone⟩) hnext
    refine ⟨hsorted, fun q => ?_⟩
    rw [hiff, mem_flatten_enqueue]
    simp only [List.flatten_cons, List.cons_append, List.mem_cons, List.mem_append]
    rw [or_comm (a := q = p) (b := q ∈ done), or_assoc]

/-! ## The merge -/

theorem ordered_foldl_enqueue {runs queue : List Run} (hruns : ∀ run ∈ runs, run.Pairwise (· < ·))
    (hqueue : Ordered queue) : Ordered (runs.foldl (fun queue run => enqueue run queue) queue) := by
  induction runs generalizing queue with
  | nil => exact hqueue
  | cons run runs ih =>
    exact ih (fun other hother => hruns other (List.mem_cons_of_mem _ hother))
      (hqueue.enqueue (hruns run List.mem_cons_self))

theorem mem_flatten_foldl_enqueue {p : Pair} (runs queue : List Run) :
    p ∈ (runs.foldl (fun queue run => enqueue run queue) queue).flatten ↔
      p ∈ runs.flatten ∨ p ∈ queue.flatten := by
  induction runs generalizing queue with
  | nil => simp
  | cons run runs ih =>
    rw [List.foldl_cons, ih, mem_flatten_enqueue, List.flatten_cons, List.mem_append]
    exact or_left_comm.trans (or_assoc.symm)

variable {runs : List Run} {memory : List Pair}

private theorem merge_spec (hruns : ∀ run ∈ runs, run.Pairwise (· < ·)) :
    (merge runs memory).Pairwise (· < ·) ∧
      ∀ p, p ∈ merge runs memory ↔ p ∈ runs.flatten ∨ p ∈ memory := by
  have hall : ∀ run ∈ runs ++ [ofPairs memory], run.Pairwise (· < ·) := by
    intro run hrun
    rcases List.mem_append.mp hrun with hrun | hrun
    · exact hruns run hrun
    · obtain rfl := List.mem_singleton.mp hrun
      exact pairwise_ofPairs memory
  obtain ⟨hsorted, hiff⟩ := drain_spec [] (ordered_foldl_enqueue hall ordered_nil)
    List.head?_nil.symm .nil (by simp)
  refine ⟨hsorted, fun p => ?_⟩
  rw [merge, hiff, mem_flatten_foldl_enqueue]
  simp

/-- What comes out of a merge ascends strictly. -/
theorem pairwise_merge (hruns : ∀ run ∈ runs, run.Pairwise (· < ·)) :
    (merge runs memory).Pairwise (· < ·) :=
  (merge_spec hruns).1

/-- No pair is lost in a merge, and none comes from elsewhere. -/
theorem mem_merge (hruns : ∀ run ∈ runs, run.Pairwise (· < ·)) {p : Pair} :
    p ∈ merge runs memory ↔ p ∈ runs.flatten ∨ p ∈ memory :=
  (merge_spec hruns).2 p

end Run

end TrigramGrep.Index
