import Mathlib.Data.List.Induction
import Mathlib.Data.List.Nodup
import SqlAccess.Assignments
import SqlAccess.Proofs.Lookup.Overwriting

/-!
# Assignments as a map that keeps an order

Assigning columns one after another makes a map of them. Every column stands once, in the place of
its first assignment, and carries what was assigned to it last.
-/

namespace SqlAccess.Assignments

variable {α : Type}

/-- Assigning a column changes what it carries, and no other column. -/
theorem lookup_put (column : String) (a : α) (entries : List (String × α)) (other : String) :
    (put column a entries).lookup other =
      if other = column then some a else entries.lookup other := by
  induction entries with
  | nil => exact lookup_cons_eq_ite _ _ _
  | cons e entries ih =>
    rw [put, lookup_cons_eq_ite e]
    split
    · rename_i hcolumn
      rw [lookup_cons_eq_ite]
      by_cases hother : other = e.1
      · simp [hother, hcolumn]
      · simp [hother, ← hcolumn]
    · rename_i hcolumn
      rw [lookup_cons_eq_ite, ih]
      by_cases hother : other = e.1
      · simp [hother, hcolumn]
      · simp [hother]

/-- A column that is there already keeps its place, and a new one comes last. -/
theorem map_fst_put (column : String) (a : α) (entries : List (String × α)) :
    (put column a entries).map (·.1) =
      if column ∈ entries.map (·.1) then entries.map (·.1) else entries.map (·.1) ++ [column] := by
  induction entries with
  | nil => rfl
  | cons e entries ih =>
    rw [put]
    by_cases hcolumn : e.1 = column
    · simp [hcolumn]
    · rw [if_neg hcolumn, List.map_cons, ih, List.map_cons]
      by_cases hmem : column ∈ entries.map (·.1)
      · rw [if_pos hmem, if_pos (List.mem_cons_of_mem _ hmem)]
      · rw [if_neg hmem, if_neg (by simpa [Ne.symm hcolumn] using hmem)]
        rfl

/-- What is assigned to a column is found under it. -/
theorem get?_eq_lookup (s : Assignments α) (column : String) :
    s.get? column = s.entries.lookup column := by
  unfold get?
  induction s.entries with
  | nil => rfl
  | cons e entries ih =>
    rw [List.find?_cons, lookup_cons_eq_ite, ← ih]
    by_cases h : e.1 = column
    · simp [h]
    · simp [h, Ne.symm h]

/-- Several assignments are put one after another. -/
theorem entries_setAll (s : Assignments α) (pairs : List (String × α)) :
    (s.setAll pairs).entries = pairs.foldl (fun entries p => put p.1 p.2 entries) s.entries := by
  unfold setAll
  induction pairs generalizing s with
  | nil => rfl
  | cons p pairs ih => exact ih (s.set p.1 p.2)

/-- What is assigned to a column is what was assigned to it last. -/
theorem lookup_ofList (pairs : List (String × α)) (column : String) :
    (ofList pairs).entries.lookup column = pairs.reverse.lookup column := by
  have hput : Overwrites fun entries (p : String × α) => put p.1 p.2 entries :=
    fun entries p other => lookup_put p.1 p.2 entries other
  rw [ofList, entries_setAll, hput.lookup_foldl]
  exact Option.or_none

/-- A name that is added to names comes first there if it has not come before. -/
private theorem eraseDups_concat (names : List String) (name : String) :
    (names ++ [name]).eraseDups =
      if name ∈ names.eraseDups then names.eraseDups else names.eraseDups ++ [name] := by
  rw [List.eraseDups_append, List.removeAll]
  by_cases h : name ∈ names
  · simp [h]
  · simp [h, List.eraseDups_cons]

/-- The assigned columns are distinct, and they stand in the order in which they come first. -/
theorem columns_ofList (pairs : List (String × α)) :
    (ofList pairs).columns = (pairs.map (·.1)).eraseDups ∧ (ofList pairs).columns.Nodup := by
  rw [columns, ofList, entries_setAll]
  induction pairs using List.reverseRecOn with
  | nil => exact ⟨rfl, List.nodup_nil⟩
  | append_singleton pairs p ih =>
    obtain ⟨hcolumns, hnodup⟩ := ih
    rw [List.foldl_append, List.foldl_cons, List.foldl_nil, map_fst_put, List.map_append]
    refine ⟨?_, ?_⟩
    · rw [List.map_singleton, eraseDups_concat, hcolumns]
    · split
      · exact hnodup
      · rename_i hnew
        rw [← List.concat_eq_append]
        exact hnodup.concat hnew

/-- Assignments are the map that a list of them makes, one after another: every column stands once,
in the order of the first assignments, and carries what was assigned to it last. -/
structure IsMapOf (s : Assignments α) (made : List (String × α)) : Prop where
  nodup_columns : s.columns.Nodup
  columns_eq : s.columns = (made.map (·.1)).eraseDups
  get?_eq : ∀ column, s.get? column = made.reverse.lookup column
  /-- The values stand in the order of their columns. -/
  map_values : s.values.map some = s.columns.map fun column => made.reverse.lookup column

/-- A list of assignments becomes the map of its standing entries. -/
theorem isMapOf_ofList (made : List (String × α)) : (ofList made).IsMapOf made where
  nodup_columns := (columns_ofList made).2
  columns_eq := (columns_ofList made).1
  get?_eq column := by rw [get?_eq_lookup, lookup_ofList]
  map_values := by
    rw [values, columns, List.map_map, List.map_map]
    refine List.map_congr_left fun e he => ?_
    have hfound := (mem_iff_lookup (columns_ofList made).2 e.1 e.2).mp he
    rw [Function.comp_apply, Function.comp_apply, ← lookup_ofList, hfound]

end SqlAccess.Assignments
