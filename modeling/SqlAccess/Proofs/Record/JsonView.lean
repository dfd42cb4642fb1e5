import Mathlib.Data.String.Basic
import SqlAccess.Proofs.Lookup.Overwriting
import SqlAccess.Proofs.Record.Cursor

/-!
# The JSON view of a row

The members of a JSON object are sorted by name, and each name stands once. In the JSON view of a
row every column has a member and nothing else has one. A name that stands for several columns is
read as the first of them by the accessor and as the last of them in the view, so the two agree
where their cells do, and always for a name that stands once.
-/

namespace SqlAccess

namespace Json

variable {α : Type}

/-- The members of an object are sorted by name, so that each name stands once. -/
def Sorted (members : List (String × α)) : Prop := (members.map (·.1)).Pairwise (· < ·)

private theorem sorted_nil : Sorted ([] : List (String × α)) := List.Pairwise.nil

/-- Members in strict order have names of their own. -/
theorem Sorted.nodup {members : List (String × α)} (h : Sorted members) :
    (members.map (·.1)).Nodup :=
  h.imp fun hlt => ne_of_lt hlt

/-- A member that is put in is found under its name, and the others are found as before. -/
theorem lookup_insertMember (name : String) (a : α) (members : List (String × α)) (other : String) :
    (insertMember name a members).lookup other =
      if other = name then some a else members.lookup other := by
  fun_induction insertMember name a members with
  | case1 => exact lookup_cons_eq_ite _ _ _
  | case2 v rest =>
    rw [lookup_cons_eq_ite, lookup_cons_eq_ite]
    by_cases h : other = name <;> simp [h]
  | case3 n v rest hne hlt => exact lookup_cons_eq_ite _ _ _
  | case4 n v rest hne hlt ih =>
    rw [lookup_cons_eq_ite, ih, lookup_cons_eq_ite]
    by_cases h : other = name
    · have hother : other ≠ n := fun heq => hne (h.symm.trans heq)
      simp [h, hne]
    · simp [h]

/-- Only the name of a member that is put in is new. -/
theorem mem_names_insertMember {name : String} {a : α} {members : List (String × α)}
    {other : String} (h : other ∈ (insertMember name a members).map (·.1)) :
    other = name ∨ other ∈ members.map (·.1) := by
  rw [← isSome_lookup_iff, lookup_insertMember] at h
  rw [← isSome_lookup_iff]
  by_cases hname : other = name
  · exact .inl hname
  · rw [if_neg hname] at h
    exact .inr h

/-- Members stay sorted when one is put in. -/
theorem Sorted.insertMember {members : List (String × α)} (h : Sorted members) (name : String)
    (a : α) : Sorted (insertMember name a members) := by
  induction members with
  | nil => exact List.pairwise_singleton _ _
  | cons m members ih =>
    obtain ⟨hhead, htail⟩ := List.pairwise_cons.mp h
    rw [Json.insertMember]
    split
    · exact h
    split
    · rename_i hlt
      refine List.pairwise_cons.mpr ⟨fun other hother => ?_, h⟩
      rcases List.mem_cons.mp hother with rfl | hother
      · exact hlt
      · exact lt_trans hlt (hhead other hother)
    · rename_i hne hge
      refine List.pairwise_cons.mpr ⟨fun other hother => ?_, ih htail⟩
      rcases mem_names_insertMember hother with rfl | hother
      · exact lt_of_le_of_ne (not_lt.mp hge) (Ne.symm hne)
      · exact hhead other hother

/-- Members stay sorted when several are put in, one after another. -/
theorem Sorted.foldl_insertMember {members : List (String × α)} (h : Sorted members)
    (more : List (String × α)) :
    Sorted (more.foldl (fun sorted m => Json.insertMember m.1 m.2 sorted) members) := by
  induction more generalizing members with
  | nil => exact h
  | cons m more ih => exact ih (h.insertMember m.1 m.2)

end Json

namespace Row

/-- The JSON view of a cell; NULL is null. -/
def cellJson (cell : Option Value) : Json := (cell.map Value.toJson).getD .null

/-- The members of the JSON view of a row. -/
def members (r : Row) : List (String × Json) :=
  (r.pairs.map fun p => (p.1, cellJson p.2)).foldl
    (fun sorted m => Json.insertMember m.1 m.2 sorted) []

/-- The view of a row is the object of its members. -/
theorem toJson_eq (r : Row) : r.toJson = .object r.members := rfl

/-- The members of the view are in the order of their names. -/
theorem sorted_members (r : Row) : Json.Sorted r.members :=
  Json.sorted_nil.foldl_insertMember _

/-- The view shows the last cell of each name. -/
private theorem lookup_members (r : Row) (name : String) :
    r.members.lookup name = (r.pairs.reverse.lookup name).map cellJson := by
  have hput : Overwrites fun sorted m => Json.insertMember (α := Json) m.1 m.2 sorted :=
    fun sorted m other => Json.lookup_insertMember m.1 m.2 sorted other
  rw [members, hput.lookup_foldl, ← List.map_reverse, lookup_map_snd, List.lookup_nil,
    Option.or_none]

/-- A name stands for the cell under the first column with that name. -/
theorem lookup_zip {columns : List String} {cells : List (Option Value)}
    (h : columns.length = cells.length) (name : String) :
    (columns.zip cells).lookup name =
      (columns.findIdx? (· = name)).map fun i => cells[i]?.join := by
  induction columns generalizing cells with
  | nil => rfl
  | cons column columns ih =>
    cases cells with
    | nil => cases h
    | cons cell cells =>
      rw [List.zip_cons_cons, lookup_cons_eq_ite, ih (Nat.succ.inj h), List.findIdx?_cons]
      by_cases hname : name = column
      · simp [hname]
      · simp [hname, Ne.symm hname, Option.map_map, Function.comp_def]

/-- The accessor gives the first cell of a name. -/
private theorem get_eq_ok {r : Row} (h : r.columns.length = r.cells.length) {name : String}
    {cell : Option Value} (hcell : r.pairs.lookup name = some cell) : r.get name = .ok cell := by
  rw [pairs, lookup_zip h] at hcell
  obtain ⟨i, hi, rfl⟩ := Option.map_eq_some_iff.mp hcell
  rw [get, hi]
  rfl

/-- The columns of a row are the names of its pairs. -/
theorem map_fst_pairs {r : Row} (h : r.columns.length = r.cells.length) :
    r.pairs.map (·.1) = r.columns := List.map_fst_zip (Nat.le_of_eq h)

/-- Every column has a member in the view, and nothing else has one. -/
private theorem mem_names_members {r : Row} (h : r.columns.length = r.cells.length)
    (name : String) : name ∈ r.members.map (·.1) ↔ name ∈ r.columns := by
  rw [← isSome_lookup_iff, lookup_members, Option.isSome_map, isSome_lookup_iff, List.map_reverse,
    List.mem_reverse, map_fst_pairs h]

/-- In the JSON view of a row of a set every column has one member, and nothing else has one. The
accessor reads the first cell of a name and the view shows the last one, so they agree exactly if
the two look alike, and always where the name stands for one column. -/
theorem accessor_agrees_with_view_iff {columns : List String} {rows : List (List (Option Value))}
    {r : Row} (hr : r ∈ (RecordSet.ofCells columns rows).rows) :
    ∃ members, r.toJson = .object members ∧ (members.map (·.1)).Nodup ∧
      (∀ name, name ∈ members.map (·.1) ↔ name ∈ columns) ∧
      ∀ name ∈ columns, ∃ first last, r.pairs.lookup name = some first ∧
        r.pairs.reverse.lookup name = some last ∧
        r.get name = .ok first ∧ (name, cellJson last) ∈ members ∧
        ((name, cellJson first) ∈ members ↔ cellJson first = cellJson last) ∧
        (columns.count name = 1 → first = last) := by
  obtain ⟨cells, -, rfl⟩ := List.mem_map.mp hr
  set r : Row := ⟨columns, RecordSet.fit columns.length cells⟩
  have hwidth : r.columns.length = r.cells.length := (RecordSet.length_fit _ _).symm
  have hnodup : (r.members.map (·.1)).Nodup := r.sorted_members.nodup
  refine ⟨r.members, r.toJson_eq, hnodup, mem_names_members hwidth, fun name hname => ?_⟩
  have hmem : name ∈ r.pairs.map (·.1) := (map_fst_pairs hwidth).symm ▸ hname
  obtain ⟨first, hfirst⟩ := Option.isSome_iff_exists.mp ((isSome_lookup_iff _ _).mpr hmem)
  have hmem' : name ∈ r.pairs.reverse.map (·.1) := by rwa [List.map_reverse, List.mem_reverse]
  obtain ⟨last, hlast⟩ := Option.isSome_iff_exists.mp ((isSome_lookup_iff _ _).mpr hmem')
  have hshown : r.members.lookup name = some (cellJson last) := by
    rw [lookup_members, hlast, Option.map_some]
  refine ⟨first, last, hfirst, hlast, get_eq_ok hwidth hfirst, ?_, ?_, fun hcount => ?_⟩
  · exact (mem_iff_lookup hnodup _ _).mpr hshown
  · rw [mem_iff_lookup hnodup, hshown, Option.some.injEq, eq_comm]
  · have honce : (r.pairs.map (·.1)).count name = 1 := by rwa [map_fst_pairs hwidth]
    rw [lookup_reverse_of_count honce, hfirst] at hlast
    exact Option.some.inj hlast

/-- A column that stands once is read and shown alike, NULL as null. -/
theorem nullName_agrees :
    (⟨["id", "name"], [some (.long 7), none]⟩ : Row) ∈
      (RecordSet.ofCells ["id", "name"] [[some (.long 7)]]).rows ∧
    ∃ members, (⟨["id", "name"], [some (.long 7), none]⟩ : Row).toJson = .object members ∧
      ("name", Json.null) ∈ members := by
  have hr : (⟨["id", "name"], [some (.long 7), none]⟩ : Row) ∈
      (RecordSet.ofCells ["id", "name"] [[some (.long 7)]]).rows := List.mem_singleton_self _
  obtain ⟨members, hmembers, -, -, hagree⟩ := accessor_agrees_with_view_iff hr
  obtain ⟨first, last, -, -, hget, hshown, -, honce⟩ := hagree "name" (by simp)
  obtain rfl : none = first := Except.ok.inj hget
  obtain rfl : none = last := honce (by decide)
  exact ⟨hr, members, hmembers, hshown⟩

/-- Of two columns with one name the accessor reads the first, and the view shows the second. -/
theorem repeatedName_disagrees :
    (⟨["id", "id"], [some (.int 1), some (.int 2)]⟩ : Row) ∈
      (RecordSet.ofCells ["id", "id"] [[some (.int 1), some (.int 2)]]).rows ∧
    (⟨["id", "id"], [some (.int 1), some (.int 2)]⟩ : Row).get "id" = .ok (some (.int 1)) ∧
    (⟨["id", "id"], [some (.int 1), some (.int 2)]⟩ : Row).toJson = .object [("id", .int 2)] ∧
    cellJson (some (.int 1)) ≠ .int 2 := by
  refine ⟨List.mem_singleton_self _, rfl, rfl, ?_⟩
  simp [cellJson, Value.toJson]

end Row

end SqlAccess
