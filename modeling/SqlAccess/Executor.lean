import SqlAccess.Action
import SqlAccess.Record
import SqlAccess.Statement.Any
import SqlAccess.Trace

/-!
# Executors

An executor runs statements: a connection, a transaction on one, or a script that stands in for
them. It commits nothing by itself. Statements under construction run on any executor, written for
its dialect with placeholders, and what cannot be written never reaches it.
-/

namespace SqlAccess

/-- What runs statements, as a state that its calls change. -/
class Executor (σ : Type) where
  /-- The dialect of the server behind an executor. -/
  dialect : σ → Dialect
  /-- Runs a statement and answers how many rows it changed. -/
  execute : String → List Value → Action σ UInt64
  /-- Runs a query and reads all of its rows. -/
  query : String → List Value → Action σ RecordSet
  /-- The id that the last insert generated. -/
  lastInsertId : Action σ UInt64
  /-- Opens a transaction. -/
  begin : Action σ Unit
  /-- Keeps what was done since the transaction was opened. -/
  commit : Action σ Unit
  /-- Undoes what was done since the transaction was opened. -/
  rollback : Action σ Unit
  /-- Passes on a diagnostic event. -/
  report : Event → σ → σ

/-- The statements that change rows. -/
class Mutation (α : Type) extends Statement α

instance : Mutation Insert where
instance : Mutation Update where
instance : Mutation Delete where
instance : Mutation AnyMutation where

variable {σ α : Type} [Executor σ]

/-- The error of a query that had to have a row. -/
def noRow : DbError := .notFound "Expected 1 row, got 0"

/-- The first row of a query; further rows do not matter. -/
def Executor.queryOne (sql : String) (values : List Value) : Action σ Row := do
  let rows ← Executor.query sql values
  Action.ofExcept ((rows.get? 0).elim (.error noRow) .ok)

namespace Statement

variable [Statement α]

/-- Reads all rows of a statement. -/
def query (q : α) : Action σ RecordSet := do
  let d ← Action.look Executor.dialect
  let p ← Action.ofExcept (prepareFor d q)
  Executor.query p.sql p.parameters.values

/-- Reads the first row of a statement, if there is one. -/
def queryOption (q : α) : Action σ (Option Row) := do
  let rows ← query q
  pure (rows.get? 0)

/-- Reads the first row of a statement. -/
def queryOne (q : α) : Action σ Row := do
  let row ← queryOption q
  Action.ofExcept (row.elim (.error noRow) .ok)

end Statement

/-- Runs a statement that changes rows and answers how many it changed. -/
def Mutation.execute [Mutation α] (q : α) : Action σ UInt64 := do
  let d ← Action.look Executor.dialect
  let p ← Action.ofExcept (Statement.prepareFor d q)
  Executor.execute p.sql p.parameters.values

namespace Select

/-- The error of a count that is no integer. -/
def noCount : DbError := .decode "COUNT(*)" "count query returned no integer"

/-- The count in the first cell of a set; what is below zero counts as zero. -/
def countOf (rows : RecordSet) : Except DbError UInt64 :=
  match (rows.get? 0).bind (Row.cellAt · 0) with
  | none => .error noCount
  | some v =>
    match v.asInt64, v with
    | some n, _ => .ok (.ofNat n.toInt.toNat)
    | none, .decimal d => .ok (d.toUInt64?.getD 0)
    | none, _ => .error noCount

/-- Counts the rows of a query. -/
def count (q : Select) : Action σ UInt64 := do
  let d ← Action.look Executor.dialect
  let p ← Action.ofExcept (q.countPrepareFor d)
  let rows ← Executor.query p.sql p.parameters.values
  Action.ofExcept (countOf rows)

/-- Counts the rows of a query, and reads those in its window; the count is the total of the set. -/
def fetchPage (q : Select) : Action σ RecordSet := do
  let total ← q.count
  let rows ← Statement.query q
  pure (rows.setTotal (some total))

end Select

namespace Insert

/-- Inserts a row and answers the id generated for it. -/
def insertLastId (q : Insert) : Action σ UInt64 := do
  let _ ← Mutation.execute q
  Executor.lastInsertId

/-- Inserts a row and answers its value in a column: by a clause of the insert where the dialect has
one, otherwise by the generated id. -/
def insertReturning (q : Insert) (column : String) : Action σ Value := do
  match ← Action.look Executor.dialect with
  | .postgres =>
    let p ← Action.ofExcept (Statement.prepareFor .postgres q)
    let rows ← Executor.query (p.sql ++ " RETURNING " ++ column) p.parameters.values
    Action.ofExcept (((rows.get? 0).bind (Row.cellAt · 0)).elim
      (.error (.notFound ("no id returned for " ++ column))) .ok)
  | .mysql =>
    let id ← q.insertLastId
    pure (Value.ofUInt64 id)

end Insert

end SqlAccess
