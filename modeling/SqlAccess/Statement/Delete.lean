import SqlAccess.Statement.Basic

/-!
# Deletes

A delete removes the rows that pass its filter. Without a filter it is refused, since it would
remove every row.
-/

namespace SqlAccess

/-- A delete under construction. -/
structure Delete where
  table : String
  filter : Filter := .empty
  dialect : Dialect := .mysql
  deriving Inhabited

/-- A call that changes a delete. -/
inductive DeleteCall
  | dialect (d : Dialect)
  | reset
  | filter (c : FilterCall)

namespace Delete

/-- The delete from a table that has no filter yet. -/
def ofTable (table : String) : Delete := { table }

/-- The delete after a call. -/
def call (q : Delete) : DeleteCall → Delete
  | .dialect d => { q with dialect := d }
  | .reset => { q with filter := .empty }
  | .filter c => { q with filter := q.filter.call c }

/-- The delete after several calls. -/
def calls (q : Delete) (cs : List DeleteCall) : Delete := cs.foldl call q

/-- Whether a delete has a filter. -/
def hasFilter (q : Delete) : Bool := !q.filter.isEmpty

/-- The error of a delete without a filter. -/
def noFilter (table : String) : DbError :=
  .unsafeStatement ("DELETE FROM " ++ table ++ " without WHERE")

/-- The segments of a delete. -/
def fragment (q : Delete) : Except DbError Fragment :=
  if q.filter.isEmpty then .error (noFilter q.table)
  else
    q.filter.rendering.result.map fun w => .text ("DELETE FROM " ++ q.table ++ " WHERE ") :: w

instance : Statement Delete := ⟨Delete.dialect, fragment⟩

end Delete

end SqlAccess
