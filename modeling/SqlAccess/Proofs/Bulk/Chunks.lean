import SqlAccess.Bulk

/-!
# Pieces of a list

Cut into pieces, a list is the pieces one after another. No piece is empty, none is longer than
its size, all but the last have exactly that size, and there are as many as the length divided by
the size, rounded up.
-/

namespace SqlAccess.BulkInsert

variable {α : Type} {size : Nat}

/-- The pieces of a list, one after another, are the list. -/
theorem flatten_chunks (size : Nat) (xs : List α) : (chunks size xs).flatten = xs := by
  induction xs using chunks.induct size with
  | case1 => rw [chunks, List.flatten_nil]
  | case2 x rest ih =>
    rw [chunks, List.flatten_cons, ih, List.cons_append, List.take_append_drop]

/-- A list without pieces is empty. -/
theorem chunks_eq_nil_iff {xs : List α} : chunks size xs = [] ↔ xs = [] := by
  cases xs with
  | nil => simp [chunks]
  | cons x rest => simp [chunks]

/-- A piece has an element and no more than its size. -/
theorem length_of_mem_chunks (hs : 1 ≤ size) {xs piece : List α} (h : piece ∈ chunks size xs) :
    1 ≤ piece.length ∧ piece.length ≤ size := by
  induction xs using chunks.induct size with
  | case1 =>
    rw [chunks] at h
    cases h
  | case2 x rest ih =>
    rw [chunks] at h
    rcases List.mem_cons.mp h with rfl | h
    · rw [List.length_cons, List.length_take]
      omega
    · exact ih h

/-- Each piece that others follow is full. -/
theorem length_of_mem_dropLast_chunks (hs : 1 ≤ size) {xs piece : List α}
    (h : piece ∈ (chunks size xs).dropLast) : piece.length = size := by
  induction xs using chunks.induct size with
  | case1 =>
    rw [chunks] at h
    cases h
  | case2 x rest ih =>
    rw [chunks] at h
    by_cases hrest : chunks size (rest.drop (size - 1)) = []
    · rw [hrest] at h
      cases h
    · rw [List.dropLast_cons_of_ne_nil hrest] at h
      rcases List.mem_cons.mp h with rfl | h
      · have hlong : rest.drop (size - 1) ≠ [] := fun he => hrest (chunks_eq_nil_iff.mpr he)
        rw [Ne, List.drop_eq_nil_iff] at hlong
        rw [List.length_cons, List.length_take]
        omega
      · exact ih h

/-- The number of pieces is the length divided by the size, rounded up. -/
theorem length_chunks (hs : 1 ≤ size) (xs : List α) :
    (chunks size xs).length = (xs.length + (size - 1)) / size := by
  induction xs using chunks.induct size with
  | case1 =>
    simp only [chunks, List.length_nil, Nat.zero_add]
    exact (Nat.div_eq_of_lt (by omega)).symm
  | case2 x rest ih =>
    have hsum : (x :: rest).length + (size - 1) = rest.length + size := by
      rw [List.length_cons]
      omega
    have hdrop : (rest.length - (size - 1) + (size - 1)) / size = rest.length / size := by
      by_cases hlong : size - 1 ≤ rest.length
      · rw [Nat.sub_add_cancel hlong]
      · rw [Nat.div_eq_of_lt (by omega), Nat.div_eq_of_lt (by omega)]
    rw [chunks, List.length_cons, ih, List.length_drop, hdrop, hsum,
      Nat.add_div_right _ (by omega)]

end SqlAccess.BulkInsert
