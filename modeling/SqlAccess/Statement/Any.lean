import SqlAccess.Statement.Delete
import SqlAccess.Statement.Insert
import SqlAccess.Statement.Select
import SqlAccess.Statement.Update

/-!
# Statements of any kind

One type for every statement that changes rows, and one for those and queries. Each is a statement
itself and is written as the one it holds.
-/

namespace SqlAccess

/-- A statement under construction that changes rows. -/
inductive AnyMutation
  | insert (q : Insert)
  | update (q : Update)
  | delete (q : Delete)

/-- A statement under construction, of any kind. -/
inductive AnyStatement
  | select (q : Select)
  | mutation (q : AnyMutation)

/-- The dialect of the statement that is held. -/
def AnyMutation.dialect : AnyMutation → Dialect
  | .insert q => q.dialect
  | .update q => q.dialect
  | .delete q => q.dialect

/-- The segments of the statement that is held. -/
def AnyMutation.fragment : AnyMutation → Except DbError Fragment
  | .insert q => q.fragment
  | .update q => q.fragment
  | .delete q => q.fragment

instance : Statement AnyMutation := ⟨AnyMutation.dialect, AnyMutation.fragment⟩

/-- The dialect of the statement that is held. -/
def AnyStatement.dialect : AnyStatement → Dialect
  | .select q => q.dialect
  | .mutation q => q.dialect

/-- The segments of the statement that is held. -/
def AnyStatement.fragment : AnyStatement → Except DbError Fragment
  | .select q => q.fragment
  | .mutation q => q.fragment

instance : Statement AnyStatement := ⟨AnyStatement.dialect, AnyStatement.fragment⟩

end SqlAccess
