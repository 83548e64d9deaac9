import TrigramGrep.Proofs.Regex.Language
import TrigramGrep.Proofs.Text.Utf8
import TrigramGrep.Regex.Search

/-!
# What a search finds

A search finds a match when a thread comes to the end of the program.  Whatever has been tried before and in
whatever order, that thread has got there step by step from the beginning of the program
(`Program.Ends`), and each step that takes bytes takes a member of its class.
-/

namespace TrigramGrep

namespace Buffer

/-- The bytes between two positions. -/
def between (buffer : Buffer) (start stop : Nat) : Bytes :=
  (buffer.extract start stop).toList

@[simp] theorem between_self (buffer : Buffer) (i : Nat) : buffer.between i i = [] := by
  simp [between]

theorem between_append {buffer : Buffer} {i j k : Nat} (hij : i ≤ j) (hjk : j ≤ k) :
    buffer.between i j ++ buffer.between j k = buffer.between i k := by
  rw [between, between, between, ← Array.toList_append, Array.extract_append_extract,
    Nat.min_eq_left hij, Nat.max_eq_right hjk]

theorem between_eq_take (buffer : Buffer) (i j : Nat) :
    buffer.between i j = (buffer.toList.drop i).take (j - i) := by
  rw [between, Array.toList_extract, List.extract_eq_take_drop]

theorem between_isInfix (buffer : Buffer) (i j : Nat) : buffer.between i j <:+: buffer.toList := by
  rw [between_eq_take]
  exact (List.take_prefix _ _).isInfix.trans (List.drop_suffix _ _).isInfix

/-- Bytes that stand at a position reach as far as they are long. -/
theorem between_of_prefix {buffer : Buffer} {i : Nat} {bytes : Bytes}
    (h : bytes <+: buffer.toList.drop i) (hne : bytes ≠ []) :
    i + bytes.length ≤ buffer.size ∧ buffer.between i (i + bytes.length) = bytes := by
  have hlength := h.length_le
  have hpos := List.length_pos_iff.mpr hne
  have hsize : buffer.toList.length = buffer.size := Array.length_toList
  rw [List.length_drop, hsize] at hlength
  refine ⟨by omega, ?_⟩
  rw [between_eq_take, Nat.add_sub_cancel_left, ← List.prefix_iff_eq_take.mp h]

/-- A byte that is seen in a text. -/
theorem between_of_byte {buffer : Buffer} {i : Nat} {byte : UInt8} (h : buffer[i]? = some byte) :
    i + 1 ≤ buffer.size ∧ buffer.between i (i + 1) = [byte] := by
  refine between_of_prefix ?_ (List.cons_ne_nil byte [])
  obtain ⟨hi, hbyte⟩ := Array.getElem?_eq_some_iff.mp h
  rw [List.drop_eq_getElem_cons (by simpa using hi), Array.getElem_toList, hbyte]
  exact ⟨_, rfl⟩

/-- The bytes of a character that is seen in a text. -/
theorem between_of_character {buffer : Buffer} {i stop length : Nat} {c : Char}
    (h : buffer.character? i stop = some (c, length)) :
    i + length ≤ buffer.size ∧ buffer.between i (i + length) = String.utf8EncodeChar c := by
  unfold character? at h
  split at h
  · next found hfront =>
    cases h
    obtain ⟨rest, hbytes, rfl⟩ := Text.Utf8.eq_append_of_front hfront
    refine between_of_prefix ?_ String.utf8EncodeChar_ne_nil
    rw [Array.toList_extract, List.extract_eq_take_drop] at hbytes
    exact (List.prefix_append _ rest).trans (hbytes ▸ List.take_prefix _ _)
  · cases h

end Buffer

/-- What is taken is a member of the class. -/
theorem CharClass.take?_eq_some {set : CharClass} {buffer : Buffer} {i j : Nat}
    (h : set.take? buffer i = some j) :
    i ≤ j ∧ j ≤ buffer.size ∧ buffer.between i j ∈ set.language := by
  unfold CharClass.take? at h
  split at h
  · next set =>
    split at h
    · next byte hbyte =>
      obtain ⟨hset, ⟨⟩⟩ := Option.ite_none_right_eq_some.mp h
      obtain ⟨hsize, hbetween⟩ := Buffer.between_of_byte hbyte
      exact ⟨Nat.le_succ i, hsize, byte, hset, hbetween⟩
    · cases h
  · next set =>
    split at h
    · cases h
    · next byte hbyte =>
      split at h
      · next hascii =>
        obtain ⟨hset, ⟨⟩⟩ := Option.ite_none_right_eq_some.mp h
        obtain ⟨hsize, hbetween⟩ := Buffer.between_of_byte hbyte
        have hascii : byte.toNat < 0x80 := UInt8.lt_iff_toNat_lt.mp hascii
        refine ⟨Nat.le_succ i, hsize, Char.ofNat byte.toNat, ?_, ?_⟩
        · rwa [Char.toNat, Text.Utf8.toNat_val_ofNat (.inl (by omega))]
        · rw [hbetween, Text.Utf8.utf8EncodeChar_one hascii]
      · split at h
        · next c length hcharacter =>
          obtain ⟨hset, ⟨⟩⟩ := Option.ite_none_right_eq_some.mp h
          obtain ⟨hsize, hbetween⟩ := Buffer.between_of_character hcharacter
          exact ⟨Nat.le_add_right i length, hsize, c, hset, hbetween⟩
        · cases h

namespace Program

/-- A number of steps lead from a thread to the end of a program, at a position. -/
inductive Ends (program : Program) (buffer : Buffer) : (steps : Nat) → Thread → (stop : Nat) → Prop where
  | here {thread : Thread} (hend : program[thread.place]? = none) :
    Ends program buffer 0 thread thread.position
  | step {steps stop : Nat} {thread next : Thread} {instruction : Instruction}
    (hat : program[thread.place]? = some instruction) (hnext : next ∈ thread.next buffer instruction)
    (hrest : Ends program buffer steps next stop) : Ends program buffer (steps + 1) thread stop

/-- A run ends where one of its threads does. -/
theorem ends_of_run {program : Program} {buffer : Buffer} {fuel stop : Nat} {threads : List Thread}
    {tried : Tried} (h : (run program buffer fuel threads tried).1 = some stop) :
    ∃ thread ∈ threads, ∃ steps, program.Ends buffer steps thread stop := by
  induction fuel generalizing threads tried with
  | zero => simp [run] at h
  | succ fuel ih =>
    cases threads with
    | nil => simp [run] at h
    | cons thread waiting =>
      rw [run] at h
      split at h
      · next hend =>
        cases h
        exact ⟨thread, List.mem_cons_self, 0, .here hend⟩
      · next instruction hat =>
        split at h
        · -- a place that was tried before is given up
          obtain ⟨other, hother, hends⟩ := ih h
          exact ⟨other, List.mem_cons_of_mem thread hother, hends⟩
        · obtain ⟨other, hother, steps, hends⟩ := ih h
          rcases List.mem_append.mp hother with hnext | hwaiting
          · exact ⟨thread, List.mem_cons_self, steps + 1, .step hat hnext hends⟩
          · exact ⟨other, List.mem_cons_of_mem thread hwaiting, steps, hends⟩

theorem ends_of_findFrom {program : Program} {buffer : Buffer} {count position : Nat} {tried : Tried}
    {found : Span} (h : findFrom program buffer count position tried = some found) :
    position ≤ found.start ∧ found.start < position + count ∧
      ∃ steps, program.Ends buffer steps ⟨0, found.start⟩ found.stop := by
  induction count generalizing position tried with
  | zero => cases h
  | succ count ih =>
    rw [findFrom] at h
    split at h
    · next stop _ hrun =>
      cases h
      obtain ⟨thread, hthread, hends⟩ := ends_of_run (congrArg Prod.fst hrun)
      rw [List.mem_singleton.mp hthread] at hends
      exact ⟨Nat.le_refl position, Nat.lt_add_of_pos_right (Nat.succ_pos count), hends⟩
    · obtain ⟨hstart, hcount, hends⟩ := ih h
      exact ⟨by omega, by omega, hends⟩

/-- A match that is found starts where it may, and steps lead from there to its end. -/
theorem ends_of_find {program : Program} {buffer : Buffer} {position : Nat} {found : Span}
    (h : program.find buffer position = some found) :
    position ≤ found.start ∧ found.start ≤ buffer.size ∧
      ∃ steps, program.Ends buffer steps ⟨0, found.start⟩ found.stop := by
  obtain ⟨hstart, hcount, hends⟩ := ends_of_findFrom h
  exact ⟨hstart, by omega, hends⟩

end Program

end TrigramGrep
