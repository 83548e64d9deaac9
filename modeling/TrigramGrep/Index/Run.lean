import TrigramGrep.Codec.LittleEndian
import TrigramGrep.Posting
import TrigramGrep.Trigram

/-!
# Sorted runs of pairs and their merge

While an index is built, every occurrence of a trigram in a file is a pair of the two, packed into
one number so that numbers compare as pairs do, trigram first.  Pairs pile up in memory; past a
threshold they are sorted, each kept once, and set aside as a run in a file of its own, eight bytes a
pair (`SpilledRun`).  At the end all runs, read from their files, and what is left in memory are merged
into one ascending stream without repeats.

## Shape of the merge

The runs wait in a queue ordered by their first pairs.  Each step takes the first pair of the first
run, puts the rest of that run back into the queue, and emits the pair unless it is the one emitted
last: equal pairs of different runs come one after the other.
-/

namespace TrigramGrep.Index

/-- A trigram in the upper and a file in the lower 32 bits. -/
abbrev Pair := UInt64

namespace Pair

/-- The pair of a trigram and a file that holds it. -/
def pack (t : Trigram) (id : FileId) : Pair :=
  t.toUInt64 <<< 32 ||| id.toUInt64

/-- The trigram and the file of a pair. -/
def unpack (p : Pair) : Trigram × FileId :=
  ((p >>> 32).toUInt32, p.toUInt32)

end Pair

/-- A list of pairs, strictly ascending. -/
abbrev Run := List Pair

namespace Run

/-- The run of a heap of pairs: sorted, each pair once. -/
def ofPairs (pairs : List Pair) : Run :=
  (pairs.mergeSort fun p q => decide (p ≤ q)).eraseReps

/-- The file of a run: eight bytes a pair. -/
def toFile (run : Run) : Bytes := run.flatMap Codec.LittleEndian.encode64

/-- The pairs of a file; bytes at its end that are too few for a pair are left. -/
def ofFile : (file : Bytes) → Run
  | a :: b :: c :: d :: e :: f :: g :: h :: rest =>
    UInt64.ofNat (Codec.LittleEndian.decode [a, b, c, d, e, f, g, h]) :: ofFile rest
  | _ => []

/-- A queue of runs with one more run, put before the first run whose first pair is larger.  An empty
run leaves no trace. -/
def enqueue (run : Run) (queue : List Run) : List Run :=
  match run with
  | [] => queue
  | p :: _ =>
    queue.takeWhile (startsAtMost p) ++ run :: queue.dropWhile (startsAtMost p)
where
  /-- Whether a run starts with a pair that is not above `p`. -/
  startsAtMost (p : Pair) : Run → Bool
    | [] => true
    | q :: _ => decide (q ≤ p)

/-- How many pairs wait in a queue. -/
def waiting : (queue : List Run) → Nat
  | [] => 0
  | run :: queue => run.length + waiting queue

theorem waiting_append (queue others : List Run) :
    waiting (queue ++ others) = waiting queue + waiting others := by
  induction queue with
  | nil => simp [waiting]
  | cons run queue ih =>
    rw [List.cons_append, waiting, waiting, ih]
    omega

theorem waiting_enqueue (run : Run) (queue : List Run) :
    waiting (enqueue run queue) = run.length + waiting queue := by
  cases run with
  | nil => simp [enqueue]
  | cons p rest =>
    have split : waiting queue =
        waiting (queue.takeWhile (enqueue.startsAtMost p)) +
          waiting (queue.dropWhile (enqueue.startsAtMost p)) := by
      rw [← waiting_append, List.takeWhile_append_dropWhile]
    rw [enqueue, waiting_append, waiting, split]
    omega

/-- The pairs of a queue of runs in ascending order, without the pairs that repeat the one emitted
before; `done` holds what was emitted so far, the last first. -/
def drain (queue : List Run) (last : Option Pair) (done : List Pair) : List Pair :=
  match queue with
  | [] => done.reverse
  | [] :: rest => drain rest last done
  | (p :: run) :: rest =>
    if last = some p then drain (enqueue run rest) last done
    else drain (enqueue run rest) (some p) (p :: done)
termination_by waiting queue + queue.length
decreasing_by
  · simp [waiting]
  all_goals
    rw [waiting_enqueue]
    have : (enqueue run rest).length ≤ rest.length + 1 := by
      cases run with
      | nil => simp [enqueue]
      | cons q tail =>
        have := congrArg List.length (List.takeWhile_append_dropWhile
          (p := enqueue.startsAtMost q) (l := rest))
        simp only [enqueue, List.length_append, List.length_cons] at this ⊢
        omega
    simp only [waiting, List.length_cons]
    omega

/-- All pairs of the runs and of the memory, ascending, each once. -/
def merge (runs : List Run) (memory : List Pair) : List Pair :=
  drain ((runs ++ [ofPairs memory]).foldl (fun queue run => enqueue run queue) []) none []

end Run

/-- A run that was set aside: its file, and how many pairs are in it. -/
structure SpilledRun where
  file : Bytes
  length : Nat
  deriving DecidableEq, Repr

namespace SpilledRun

/-- A heap of pairs set aside: sorted, each pair once. -/
def ofPairs (pairs : List Pair) : SpilledRun :=
  let run := Run.ofPairs pairs
  { file := run.toFile, length := run.length }

/-- The pairs that are read from the file. -/
def run (s : SpilledRun) : Run := Run.ofFile s.file

end SpilledRun

end TrigramGrep.Index
