import SqlAccess.Proofs.Lookup.Assignments
import SqlAccess.Proofs.Placeholder.Fragment
import SqlAccess.Proofs.Statement.Edits
import SqlAccess.Proofs.Statement.Outline

/-!
# What inserts and updates assign

The calls on an insert or an update leave a map of the assigned columns: each stands once, in the
order of the first assignments since all were forgotten, and carries the last one. The insert that
is written lists the columns and their values in that order, and the update has one assignment for
each column, whether the values are written as literals or as placeholders.
-/

namespace SqlAccess

namespace Fragment

/-- The texts of fragments prepared one after another; `used` positions are taken already. -/
def preparedEach (d : Dialect) : Nat → List Fragment → List String
  | _, [] => []
  | used, f :: fs => f.prepared d used :: preparedEach d (used + f.values.length) fs

/-- The parts of a joined fragment are written as literals one by one. -/
theorem literal_joinWith (d : Dialect) (separator : String) (fs : List Fragment) :
    (joinWith separator fs).literal d = Text.joinWith separator (fs.map (literal d)) := by
  induction fs with
  | nil => rfl
  | cons f fs ih =>
    cases fs with
    | nil => rfl
    | cons g gs =>
      rw [joinWith, literal_append, literal, ih]
      · exact String.append_assoc.symm
      · simp

/-- The parts of a joined fragment are prepared one by one. -/
theorem prepared_joinWith (d : Dialect) (separator : String) (used : Nat) (fs : List Fragment) :
    (joinWith separator fs).prepared d used =
      Text.joinWith separator (preparedEach d used fs) := by
  induction fs generalizing used with
  | nil => rfl
  | cons f fs ih =>
    cases fs with
    | nil => rfl
    | cons g gs =>
      rw [joinWith, prepared_append, prepared, ih]
      · exact String.append_assoc.symm
      · simp

/-- A joined fragment binds what its parts bind. -/
theorem values_joinWith (separator : String) (fs : List Fragment) :
    (joinWith separator fs).values = fs.flatMap values := by
  induction fs with
  | nil => rfl
  | cons f fs ih =>
    cases fs with
    | nil => simp [joinWith]
    | cons g gs =>
      rw [joinWith, values_append, values_cons, ih, List.flatMap_cons]
      · rfl
      · simp

/-- In literal mode values are written one after another as literals. -/
theorem literal_ofValues (d : Dialect) (separator : String) (vs : List Value) :
    (ofValues separator vs).literal d = Text.joinWith separator (vs.map d.literal) := by
  rw [ofValues, literal_joinWith, List.map_map]
  exact congrArg _ (List.map_congr_left fun v _ => String.append_empty)

/-- In prepared mode values are written one after another as placeholders. -/
theorem prepared_ofValues (d : Dialect) (separator : String) (used : Nat) (vs : List Value) :
    (ofValues separator vs).prepared d used =
      Text.joinWith separator ((List.range' (used + 1) vs.length).map d.placeholder) := by
  have heach : ∀ used, preparedEach d used (vs.map fun v => [Segment.bound v]) =
      (List.range' (used + 1) vs.length).map d.placeholder := by
    induction vs with
    | nil => exact fun _ => rfl
    | cons v vs ih =>
      intro used
      rw [List.map_cons, preparedEach, ih, List.length_cons, List.range'_succ, List.map_cons]
      exact congrArg (· :: _) String.append_empty
  rw [ofValues, prepared_joinWith, heach]

/-- Values that are written are bound in their order. -/
theorem values_ofValues (separator : String) (vs : List Value) :
    (ofValues separator vs).values = vs := by
  rw [ofValues, values_joinWith, List.flatMap_map]
  exact List.flatMap_singleton' vs

end Fragment

/-! ## Inserts -/

namespace InsertCall

/-- What a call on an insert does to its assignments. -/
def assigns : InsertCall → List (Edit (String × Value))
  | .dialect _ => []
  | .set column value => [.add (column, value)]
  | .setOption column value => (value.map fun v => Edit.add (column, v)).toList
  | .setAll pairs => pairs.map .add
  | .restart pairs => .clear :: pairs.map .add
  | .reset => [.clear]

/-- The assignments that stand after calls, in the order of the calls. -/
def assigned (cs : List InsertCall) : List (String × Value) := Edit.standing (cs.flatMap assigns)

end InsertCall

namespace Insert

/-- A call on an insert makes its edits of the assignments. -/
theorem values_call (q : Insert) (c : InsertCall) :
    (q.call c).values =
      c.assigns.foldl (Edit.apply .empty fun s p => s.set p.1 p.2) q.values := by
  cases c with
  | setOption column value => cases value <;> rfl
  | setAll pairs => simp [call, InsertCall.assigns, Assignments.setAll, List.foldl_map, Edit.apply]
  | restart pairs =>
    simp [call, InsertCall.assigns, Assignments.ofList, Assignments.setAll, List.foldl_map,
      Edit.apply]
  | _ => rfl

/-- The assignments of an insert after calls are those that stand. -/
theorem values_calls (table : String) (cs : List InsertCall) :
    ((ofTable table).calls cs).values = .ofList (InsertCall.assigned cs) :=
  Edit.view_foldl values_call cs rfl

/-- The text of an insert with the texts of its values. -/
def text (q : Insert) (values : List String) : String :=
  "INSERT INTO " ++ q.table ++ " (" ++ Text.joinWith ", " q.values.columns ++ ") VALUES (" ++
    Text.joinWith ", " values ++ ")"

/-- An insert with literals lists its columns and their values in the same order. -/
theorem literalFor_eq (q : Insert) (d : Dialect) :
    Statement.literalFor d q =
      if q.values.isEmpty then .error (noColumns q.table)
      else .ok (q.text (q.values.values.map d.literal)) := by
  show q.fragment.map (Fragment.literal d) = _
  rw [fragment]
  split
  · rfl
  · refine congrArg Except.ok ?_
    rw [List.cons_append, Fragment.literal, Fragment.literal_append, Fragment.literal_ofValues]
    unfold text
    simp only [Segment.literal, Fragment.literal, String.append_empty, String.append_assoc]

/-- A prepared insert lists its columns and, in the same order, a placeholder for each value. -/
theorem prepareFor_eq (q : Insert) (d : Dialect) :
    Statement.prepareFor d q =
      if q.values.isEmpty then .error (noColumns q.table)
      else .ok ⟨q.text ((List.range' 1 q.values.size).map d.placeholder), ⟨q.values.values⟩⟩ := by
  show q.fragment.map (Fragment.prepare d) = _
  rw [fragment]
  split
  · rfl
  · refine congrArg Except.ok ?_
    rw [Fragment.prepare, List.cons_append, Fragment.prepared, Fragment.prepared_append,
      Fragment.prepared_ofValues, Fragment.values_cons, Fragment.values_append,
      Fragment.values_ofValues, Assignments.values, List.length_map]
    unfold text
    simp only [Segment.prepared, Segment.values, Fragment.prepared, Fragment.values_cons,
      Fragment.values_nil, String.append_empty, String.append_assoc, List.nil_append,
      List.append_nil, List.length_nil, Assignments.size, Nat.zero_add, Nat.add_zero]

end Insert

/-! ## Updates -/

/-- The text of an assignment to a column, with the text of its value. -/
def Assigned.text (write : Value → String) (column : String) : Assigned → String
  | .value v => column ++ " = " ++ write v
  | .expression sql => column ++ " = " ++ sql
  | .increment v => column ++ " = " ++ column ++ " + " ++ write v

namespace Update

/-- The texts of assignments with a placeholder for each value; `used` positions are taken already.
-/
def placed (d : Dialect) : Nat → List (String × Assigned) → List String
  | _, [] => []
  | used, e :: rest =>
    e.2.text (fun _ => d.placeholder (used + 1)) e.1 :: placed d (used + e.2.bindings.length) rest

/-- In literal mode an assignment spells its value. -/
theorem literal_assignment (d : Dialect) (column : String) (a : Assigned) :
    (assignment column a).literal d = a.text d.literal column := by
  cases a <;> simp [assignment, Assigned.text, Fragment.literal, Segment.literal]

/-- In prepared mode an assignment spells the next placeholder. -/
theorem prepared_assignment (d : Dialect) (used : Nat) (column : String) (a : Assigned) :
    (assignment column a).prepared d used =
      a.text (fun _ => d.placeholder (used + 1)) column := by
  cases a <;> simp [assignment, Assigned.text, Fragment.prepared, Segment.prepared, Segment.values]

/-- An assignment binds its value, unless it is an expression. -/
theorem values_assignment (column : String) (a : Assigned) :
    (assignment column a).values = a.bindings := by
  cases a <;> rfl

/-- The values that the assignments of an update bind, in the order of the columns. -/
def assignedValues (q : Update) : List Value :=
  q.assignments.entries.flatMap fun e => e.2.bindings

/-- In literal mode assignments spell their values in order. -/
private theorem literal_assignmentList (q : Update) (d : Dialect) :
    q.assignmentList.literal d =
      Text.joinWith ", " (q.assignments.entries.map fun e => e.2.text d.literal e.1) := by
  rw [assignmentList, Fragment.literal_joinWith, List.map_map]
  exact congrArg _ (List.map_congr_left fun e _ => literal_assignment d e.1 e.2)

/-- In prepared mode assignments spell their placeholders in order. -/
theorem prepared_assignmentList (q : Update) (d : Dialect) (used : Nat) :
    q.assignmentList.prepared d used =
      Text.joinWith ", " (placed d used q.assignments.entries) := by
  have heach : ∀ (entries : List (String × Assigned)) (used : Nat),
      Fragment.preparedEach d used (entries.map fun e => assignment e.1 e.2) =
        placed d used entries := by
    intro entries
    induction entries with
    | nil => exact fun _ => rfl
    | cons e entries ih =>
      intro used
      rw [List.map_cons, Fragment.preparedEach, prepared_assignment, values_assignment, ih, placed]
  rw [assignmentList, Fragment.prepared_joinWith, heach]

/-- Assignments bind their values in order. -/
private theorem values_assignmentList (q : Update) :
    q.assignmentList.values = q.assignedValues := by
  rw [assignmentList, Fragment.values_joinWith, List.flatMap_map]
  exact congrArg List.flatten (List.map_congr_left fun e _ => values_assignment e.1 e.2)

/-- The text of an update with the texts of its assignments and of its filter. -/
def text (q : Update) (assignments : List String) (filter : String) : String :=
  "UPDATE " ++ q.table ++ " SET " ++ Text.joinWith ", " assignments ++ " WHERE " ++ filter

/-- An update with literals has one assignment for each column, in their order, and then its
filter. -/
theorem literalFor_eq (q : Update) (d : Dialect) :
    Statement.literalFor d q =
      if q.assignments.isEmpty then .error (noAssignments q.table)
      else if q.filter.isEmpty then .error (noFilter q.table)
      else q.filter.rendering.result.map fun w =>
        q.text (q.assignments.entries.map fun e => e.2.text d.literal e.1) (w.literal d) := by
  show q.fragment.map (Fragment.literal d) = _
  rw [fragment]
  split
  · rfl
  split
  · rfl
  · cases q.filter.rendering.result with
    | error e => rfl
    | ok w =>
      refine congrArg Except.ok ?_
      dsimp only
      rw [List.cons_append, Fragment.literal, Fragment.literal_append, literal_assignmentList]
      unfold text
      simp only [Segment.literal, Fragment.literal, String.append_assoc]

/-- A prepared update has one assignment for each column, in their order, with a placeholder for
each value, and then its filter. -/
theorem prepareFor_eq (q : Update) (d : Dialect) :
    Statement.prepareFor d q =
      if q.assignments.isEmpty then .error (noAssignments q.table)
      else if q.filter.isEmpty then .error (noFilter q.table)
      else q.filter.rendering.result.map fun w =>
        ⟨q.text (placed d 0 q.assignments.entries) (w.prepared d q.assignedValues.length),
          ⟨q.assignedValues ++ w.values⟩⟩ := by
  show q.fragment.map (Fragment.prepare d) = _
  rw [fragment]
  split
  · rfl
  split
  · rfl
  · cases q.filter.rendering.result with
    | error e => rfl
    | ok w =>
      refine congrArg Except.ok ?_
      dsimp only
      rw [Fragment.prepare, List.cons_append, Fragment.prepared, Fragment.prepared_append,
        prepared_assignmentList, Fragment.values_cons, Fragment.values_append,
        values_assignmentList]
      unfold text
      simp only [Segment.prepared, Segment.values, Fragment.prepared, Fragment.values_cons,
        String.append_assoc, List.nil_append, List.length_nil, Nat.zero_add, Nat.add_zero]

end Update

/-! ## Both -/

/-- What is true of an insert after assignments were made. It has the map of them, and is written
with the columns and, in the same order, what they carry. -/
structure Insert.Lists (q : Insert) (made : List (String × Value)) : Prop where
  isMapOf : q.values.IsMapOf made
  /-- A column is not assigned where there is no value. -/
  call_setOption_none : ∀ column, q.call (.setOption column none) = q
  literalFor_eq : ∀ d, Statement.literalFor d q =
    if q.values.isEmpty then .error (noColumns q.table)
    else .ok (q.text (q.values.values.map d.literal))
  prepareFor_eq : ∀ d, Statement.prepareFor d q =
    if q.values.isEmpty then .error (noColumns q.table)
    else .ok ⟨q.text ((List.range' 1 q.values.size).map d.placeholder), ⟨q.values.values⟩⟩

/-- What is true of an update after assignments were made. It has the map of them, and is written
with one assignment for each column, in their order. -/
structure Update.Lists (q : Update) (made : List (String × Assigned)) : Prop where
  isMapOf : q.assignments.IsMapOf made
  /-- A column is not assigned where there is no value. -/
  call_setOption_none : ∀ column, q.call (.setOption column none) = q
  literalFor_eq : ∀ d, Statement.literalFor d q =
    if q.assignments.isEmpty then .error (noAssignments q.table)
    else if q.filter.isEmpty then .error (noFilter q.table)
    else q.filter.rendering.result.map fun w =>
      q.text (q.assignments.entries.map fun e => e.2.text d.literal e.1) (w.literal d)
  prepareFor_eq : ∀ d, Statement.prepareFor d q =
    if q.assignments.isEmpty then .error (noAssignments q.table)
    else if q.filter.isEmpty then .error (noFilter q.table)
    else q.filter.rendering.result.map fun w =>
      ⟨q.text (placed d 0 q.assignments.entries) (w.prepared d q.assignedValues.length),
        ⟨q.assignedValues ++ w.values⟩⟩

/-- Assignments that start from a list and are edited are those that stand after all of it. -/
theorem Assignments.foldl_edits {α : Type} (start : List (String × α))
    (edits : List (Edit (String × α))) :
    edits.foldl (Edit.apply .empty fun s p => s.set p.1 p.2) (ofList start) =
      ofList (Edit.standing (start.map .add ++ edits)) := by
  have hstart : (start.map Edit.add).foldl (Edit.apply .empty fun s p => s.set p.1 p.2) empty =
      ofList start := by
    rw [List.foldl_map]
    rfl
  rw [← hstart, ← List.foldl_append, Edit.foldl_apply]
  rfl

/-- Assignments that are set and cleared, and those that any calls leave on an insert or an update,
are a map of the assignments that stand: each column once, in the order in which they were first
assigned since all were forgotten, with what was assigned last. The statements are written with
their columns in that order, each with its own value. -/
theorem assignments_keep_order :
    (∀ (start : List (String × Value)) (edits : List (Edit (String × Value))),
      (edits.foldl (Edit.apply .empty fun s p => s.set p.1 p.2) (Assignments.ofList start)).IsMapOf
        (Edit.standing (start.map .add ++ edits))) ∧
    (∀ (table : String) (cs : List InsertCall),
      ((Insert.ofTable table).calls cs).Lists (InsertCall.assigned cs)) ∧
    ∀ (table : String) (cs : List UpdateCall),
      ((Update.ofTable table).calls cs).Lists (UpdateCall.assigned cs) := by
  refine ⟨fun start edits => ?_, fun table cs => ?_, fun table cs => ?_⟩
  · rw [Assignments.foldl_edits]
    exact Assignments.isMapOf_ofList _
  · have hmap := Assignments.isMapOf_ofList (InsertCall.assigned cs)
    rw [← Insert.values_calls table] at hmap
    exact ⟨hmap, fun _ => rfl, Insert.literalFor_eq _, Insert.prepareFor_eq _⟩
  · have hmap := Assignments.isMapOf_ofList (UpdateCall.assigned cs)
    rw [← Update.assignments_calls table] at hmap
    exact ⟨hmap, fun _ => rfl, Update.literalFor_eq _, Update.prepareFor_eq _⟩

/-- A column that is assigned again keeps its place, and after all were forgotten it comes anew. -/
example :
    UpdateCall.assigned [.set "a" (.int 1), .restart [("b", .int 2), ("a", .int 3), ("b", .int 4)],
      .increment "a" (.int 5), .setOption "b" none] =
      [("b", .value (.int 2)), ("a", .value (.int 3)), ("b", .value (.int 4)),
        ("a", .increment (.int 5))] ∧
    ((Update.ofTable "t").calls [.set "a" (.int 1),
      .restart [("b", .int 2), ("a", .int 3), ("b", .int 4)], .increment "a" (.int 5),
      .setOption "b" none]).assignments.entries =
        [("b", .value (.int 4)), ("a", .increment (.int 5))] := by
  refine ⟨?_, ?_⟩ <;> rfl

end SqlAccess
