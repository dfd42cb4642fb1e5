import SqlAccess.Bulk
import SqlAccess.Manager.Basic

/-!
# Work on a manager

One call does its work on a connection of its own: a statement that changes rows in a unit of work,
a query as it is. A transaction holds its connection from the call that opens it to the one that
commits, rolls back or abandons it.
-/

namespace SqlAccess

namespace Manager

variable {β α : Type} [Backend β]

/-- Runs one statement as a unit of work. -/
def execute (sql : String) (values : List Value) : Action (Manager β) UInt64 :=
  withConnection (asUnit (Executor.execute sql values))

/-- Reads all rows of a query. -/
def query (sql : String) (values : List Value) : Action (Manager β) RecordSet :=
  withConnection (Executor.query sql values)

/-- Reads the first row of a query. -/
def queryOne (sql : String) (values : List Value) : Action (Manager β) Row :=
  withConnection (Executor.queryOne sql values)

/-- Runs a statement under construction as a unit of work. -/
def runMutation [Mutation α] (q : α) : Action (Manager β) UInt64 :=
  withConnection (asUnit (Mutation.execute q))

/-- Reads all rows of a statement under construction. -/
def fetch [Statement α] (q : α) : Action (Manager β) RecordSet := withConnection (Statement.query q)

/-- Inserts a row and answers its id, in one unit of work. -/
def insertLastId (q : Insert) : Action (Manager β) UInt64 := withConnection (asUnit q.insertLastId)

/-- Inserts many rows; without rows there is nothing to connect for. -/
def bulkInsert (b : BulkInsert) : Action (Manager β) BulkReport := do
  let plan ← Action.ofExcept (b.planFor (← Action.look dialect))
  if plan.isEmpty then pure { statements := 0, rows := b.rows.length, affected := 0 }
  else withConnection (b.run plan)

end Manager

/-- A transaction that is open on a connection. -/
structure Transaction (β : Type) where
  connection : Connection β

namespace Transaction

variable {β α : Type} [Backend β]

/-- A short text about a transaction. -/
def summary (t : Transaction β) : String :=
  "DbTrx \x7b dialect: " ++ t.connection.dialect.label ++ ", finished: false \x7d"

/-- The report about a transaction that nobody finished. -/
def abandoned : Event :=
  .ofMessage .warn "transaction dropped without commit or rollback; rolling back" []

/-- Opens a transaction on a connection of its own. -/
def open? : Action (Manager β) (Transaction β) := do
  let c ← Manager.acquire
  match ← Manager.on c Executor.begin with
  | (.ok _, c) => pure ⟨c⟩
  | (.error e, c) =>
    Action.change (Manager.giveBack c)
    Action.fail e

/-- Works inside a transaction: the result or error, and the transaction after it. -/
def within (t : Transaction β) (work : Action (Guarded (Session β)) α) :
    Action (Manager β) (Except DbError α × Transaction β) := do
  let (r, c) ← Manager.on t.connection (Guarded.unguard work)
  pure (r, ⟨c⟩)

/-- Commits a transaction; after a failure it is rolled back. -/
def commit (t : Transaction β) : Action (Manager β) Unit :=
  Manager.finishing t.connection (settle (.ok ()))

/-- Rolls a transaction back. -/
def rollback (t : Transaction β) : Action (Manager β) Unit :=
  Manager.finishing t.connection Executor.rollback

/-- Gives a transaction up: it is reported and rolled back. -/
def abandon (t : Transaction β) : Action (Manager β) Unit := do
  Action.change (Manager.report [abandoned])
  Manager.finishing t.connection rollbackQuietly

/-- Gives a transaction up where nothing can be sent any more: it is reported, and its connection is
taken back as it is. -/
def forsake (t : Transaction β) : Action (Manager β) Unit :=
  Action.change fun m => Manager.giveBack t.connection (Manager.report [abandoned] m)

/-- Works in a transaction that is committed after a result and rolled back after an error. The
error of a failed rollback is added to the one before it. -/
def run (work : Action (Guarded (Session β)) α) : Action (Manager β) α := do
  let t ← open?
  match ← within t work with
  | (.ok a, t) =>
    commit t
    pure a
  | (.error e, t) =>
    match ← (rollback t).attempt with
    | .ok _ => Action.fail e
    | .error f =>
      Action.fail (.other (e.message ++ " (rollback failed: " ++ f.message ++ ")"))

end Transaction

end SqlAccess
