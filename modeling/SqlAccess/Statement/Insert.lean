import SqlAccess.Assignments
import SqlAccess.Statement.Basic

/-!
# Inserts of one row

An insert lists its columns and, in the same order, their values. Without a column it is refused.
-/

namespace SqlAccess

/-- An insert under construction. -/
structure Insert where
  table : String
  values : Assignments Value := .empty
  dialect : Dialect := .mysql
  deriving Inhabited

/-- A call that changes an insert. -/
inductive InsertCall
  | dialect (d : Dialect)
  | set (column : String) (value : Value)
  /-- Assigns a column if there is a value. -/
  | setOption (column : String) (value : Option Value)
  | setAll (pairs : List (String × Value))
  /-- Forgets all assignments and starts again. -/
  | restart (pairs : List (String × Value))
  | reset

namespace Insert

/-- The insert into a table that has no columns yet. -/
def ofTable (table : String) : Insert := { table }

/-- The insert after a call. -/
def call (q : Insert) : InsertCall → Insert
  | .dialect d => { q with dialect := d }
  | .set column value => { q with values := q.values.set column value }
  | .setOption column (some value) => { q with values := q.values.set column value }
  | .setOption _ none => q
  | .setAll pairs => { q with values := q.values.setAll pairs }
  | .restart pairs => { q with values := .ofList pairs }
  | .reset => { q with values := .empty }

/-- The insert after several calls. -/
def calls (q : Insert) (cs : List InsertCall) : Insert := cs.foldl call q

/-- The error of an insert without columns. -/
def noColumns (table : String) : DbError :=
  .validation ("INSERT INTO " ++ table ++ " has no columns")

/-- The segments of an insert. -/
def fragment (q : Insert) : Except DbError Fragment :=
  if q.values.isEmpty then .error (noColumns q.table)
  else
    .ok (.text ("INSERT INTO " ++ q.table ++ " (" ++ Text.joinWith ", " q.values.columns ++
      ") VALUES (") :: Fragment.ofValues ", " q.values.values ++ [.text ")"])

instance : Statement Insert := ⟨Insert.dialect, fragment⟩

end Insert

end SqlAccess
