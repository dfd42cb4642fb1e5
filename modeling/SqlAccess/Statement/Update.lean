import SqlAccess.Assignments
import SqlAccess.Statement.Basic

/-!
# Updates

An update assigns values, expressions or increments to columns in the rows that pass its filter.
Without an assignment it is refused, and then without a filter, since it would touch every row.
-/

namespace SqlAccess

/-- What an update assigns to a column. -/
inductive Assigned
  | value (v : Value)
  | expression (sql : String)
  | increment (amount : Value)
  deriving Inhabited

/-- An update under construction. -/
structure Update where
  table : String
  assignments : Assignments Assigned := .empty
  filter : Filter := .empty
  dialect : Dialect := .mysql
  deriving Inhabited

/-- A call that changes an update. -/
inductive UpdateCall
  | dialect (d : Dialect)
  | set (column : String) (value : Value)
  /-- Assigns a column if there is a value. -/
  | setOption (column : String) (value : Option Value)
  | setExpression (column sql : String)
  | increment (column : String) (value : Value)
  /-- Forgets all assignments and starts again. -/
  | restart (pairs : List (String × Value))
  | reset
  | filter (c : FilterCall)

namespace Update

/-- The update of a table that assigns nothing yet. -/
def ofTable (table : String) : Update := { table }

/-- The update after a call. -/
def call (q : Update) : UpdateCall → Update
  | .dialect d => { q with dialect := d }
  | .set column value => { q with assignments := q.assignments.set column (.value value) }
  | .setOption column (some value) =>
    { q with assignments := q.assignments.set column (.value value) }
  | .setOption _ none => q
  | .setExpression column sql =>
    { q with assignments := q.assignments.set column (.expression sql) }
  | .increment column value =>
    { q with assignments := q.assignments.set column (.increment value) }
  | .restart pairs =>
    { q with assignments := .ofList (pairs.map fun p => (p.1, Assigned.value p.2)) }
  | .reset => { q with assignments := .empty, filter := .empty }
  | .filter c => { q with filter := q.filter.call c }

/-- The update after several calls. -/
def calls (q : Update) (cs : List UpdateCall) : Update := cs.foldl call q

/-- Whether an update has a filter. -/
def hasFilter (q : Update) : Bool := !q.filter.isEmpty

/-- The error of an update without assignments. -/
def noAssignments (table : String) : DbError :=
  .validation ("UPDATE " ++ table ++ " has no SET assignments")

/-- The error of an update without a filter. -/
def noFilter (table : String) : DbError :=
  .unsafeStatement ("UPDATE " ++ table ++ " without WHERE")

/-- The segments of one assignment. -/
def assignment (column : String) : Assigned → Fragment
  | .value v => [.text (column ++ " = "), .bound v]
  | .expression sql => [.text (column ++ " = " ++ sql)]
  | .increment v => [.text (column ++ " = " ++ column ++ " + "), .bound v]

/-- The segments of all assignments. -/
def assignmentList (q : Update) : Fragment :=
  Fragment.joinWith ", " (q.assignments.entries.map fun e => assignment e.1 e.2)

/-- The segments of an update. -/
def fragment (q : Update) : Except DbError Fragment :=
  if q.assignments.isEmpty then .error (noAssignments q.table)
  else if q.filter.isEmpty then .error (noFilter q.table)
  else
    q.filter.rendering.result.map fun w =>
      .text ("UPDATE " ++ q.table ++ " SET ") :: q.assignmentList ++ .text " WHERE " :: w

instance : Statement Update := ⟨Update.dialect, fragment⟩

end Update

end SqlAccess
