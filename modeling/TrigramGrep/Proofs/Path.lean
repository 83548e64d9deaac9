import TrigramGrep.Path

/-!
# The pieces of paths

A slash cuts a path in two, and the pieces of the whole are those of both parts.  So the pieces of an entry's
path are those of its directory, without an empty one at the end, and the name of the entry.
-/

namespace TrigramGrep.Path

theorem piecesFrom_append_slash (name before behind : Bytes) :
    piecesFrom name (before ++ slash :: behind) = piecesFrom name before ++ piecesFrom [] behind := by
  induction before generalizing name with
  | nil => simp [piecesFrom]
  | cons byte before ih =>
    rw [List.cons_append, piecesFrom, piecesFrom]
    split
    · rw [ih, List.cons_append]
    · exact ih _

theorem piecesFrom_of_not_mem {path : Path} (h : slash ∉ path) (name : Bytes) :
    piecesFrom name path = [name.reverse ++ path] := by
  induction path generalizing name with
  | nil => simp [piecesFrom]
  | cons byte path ih =>
    rw [List.mem_cons, not_or] at h
    rw [piecesFrom, if_neg (Ne.symm h.1), ih h.2]
    simp

theorem piecesFrom_ne_nil (name : Bytes) (path : Path) : piecesFrom name path ≠ [] := by
  induction path generalizing name with
  | nil => simp [piecesFrom]
  | cons byte path ih =>
    rw [piecesFrom]
    split
    · simp
    · exact ih _

/-- The path of an entry, whose name has no slash. -/
theorem join_eq {directory entry : Path} (hdirectory : directory ≠ []) (hentry : slash ∉ entry) :
    directory.join entry = directory ++ ((if directory.endsInSlash then [] else [slash]) ++ entry) := by
  have hrelative : entry.isAbsolute = false := by
    cases entry with
    | nil => rfl
    | cons byte entry =>
      have : byte ≠ slash := fun heq => hentry (heq ▸ List.mem_cons_self)
      simpa [isAbsolute] using this
  rw [join, hrelative, List.isEmpty_eq_false_iff.mpr hdirectory]
  by_cases hslash : directory.endsInSlash = true <;> simp [hslash]

/-- The pieces of the path of an entry. -/
theorem pieces_join {directory entry : Path} (hdirectory : directory ≠ []) (hentry : slash ∉ entry) :
    ∃ above, pieces (directory.join entry) = above ++ [entry] ∧
      (pieces directory = above ∨ pieces directory = above ++ [[]]) := by
  rw [join_eq hdirectory hentry]
  by_cases hslash : directory.endsInSlash = true
  · obtain ⟨above, last, rfl⟩ := (List.eq_nil_or_concat directory).resolve_left hdirectory
    obtain rfl : last = slash := by simpa [endsInSlash] using hslash
    refine ⟨pieces above, ?_, .inr ?_⟩
    · rw [if_pos hslash, List.concat_eq_append, List.append_assoc, List.nil_append,
        List.singleton_append, pieces, piecesFrom_append_slash, piecesFrom_of_not_mem hentry]
      rfl
    · rw [List.concat_eq_append, pieces, piecesFrom_append_slash]
      rfl
  · refine ⟨pieces directory, ?_, .inl rfl⟩
    rw [if_neg hslash, List.singleton_append, pieces, piecesFrom_append_slash,
      piecesFrom_of_not_mem hentry]
    rfl

theorem isAbsolute_join {directory entry : Path} (hdirectory : directory ≠ []) (hentry : slash ∉ entry) :
    (directory.join entry).isAbsolute = directory.isAbsolute := by
  rw [join_eq hdirectory hentry]
  obtain ⟨first, rest, rfl⟩ := List.exists_cons_of_ne_nil hdirectory
  rfl

/-- A path whose last piece is empty ends in a slash, or it has not begun. -/
theorem endsInSlash_of_getLast? {name path : Bytes} (h : (piecesFrom name path).getLast? = some []) :
    path = [] ∧ name = [] ∨ endsInSlash path = true := by
  induction path generalizing name with
  | nil => exact .inl ⟨rfl, by simpa [piecesFrom] using h⟩
  | cons byte path ih =>
    have hcons (hpath : endsInSlash path = true) : endsInSlash (byte :: path) = true := by
      cases path with
      | nil => simp [endsInSlash] at hpath
      | cons next path => simpa [endsInSlash] using hpath
    rw [piecesFrom] at h
    split at h
    · next hbyte =>
      rw [List.getLast?_cons_of_ne_nil (piecesFrom_ne_nil _ _)] at h
      rcases ih h with ⟨rfl, -⟩ | hpath
      · exact .inr (by simp [endsInSlash, hbyte])
      · exact .inr (hcons hpath)
    · rcases ih h with ⟨-, hname⟩ | hpath
      · exact absurd hname (List.cons_ne_nil _ _)
      · exact .inr (hcons hpath)

end TrigramGrep.Path
