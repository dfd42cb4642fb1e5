import SqlAccess.Manager.Basic

/-!
# Batches of updates

A batch runs its statements in order as one unit of work and answers how many rows each changed. It
holds no queries: one that was added is found before a connection is taken. A batch without
statements needs no connection.
-/

namespace SqlAccess

/-- Statements to run as one unit of work. -/
structure Batch where
  statements : List Prepared := []
  deriving Inhabited

namespace Batch

/-- The number of statements. -/
def size (b : Batch) : Nat := b.statements.length

/-- Whether there are no statements. -/
def isEmpty (b : Batch) : Bool := b.statements.isEmpty

/-- Adds a statement with its parameters. -/
def add (b : Batch) (p : Prepared) : Batch := ⟨b.statements ++ [p]⟩

/-- Adds a statement under construction, written for a dialect, unless it is refused. -/
def addStatement {α : Type} [Statement α] (d : Dialect) (q : α) (b : Batch) :
    Except DbError Batch :=
  (Statement.prepareFor d q).map b.add

/-- The position of the first query. -/
def firstQuery? (b : Batch) : Option Nat :=
  b.statements.findIdx? fun p => QueryKind.ofSql p.sql = .select

/-- The error of a batch with a query. -/
def queryRefused (index : Nat) : DbError :=
  .validation ("statement " ++ toString index ++
    " is a SELECT; only writes can run in a batch update")

/-- The report about a statement that failed. -/
def failure (index : Nat) (e : DbError) : Event :=
  .ofMessage .warn "batch update failed; rolling back"
    [("index", toString index), ("error", e.message)]

/-- Runs the statements of a batch. -/
def run {σ : Type} [Executor σ] (b : Batch) : Action σ (List Int64) := do
  Executor.begin
  let changed ← runInOrder failure (fun _ => pure ()) [] b.statements
  settle (.ok (changed.map Number.clampToInt64))

end Batch

/-- Runs a batch on a connection of its own. -/
def Manager.runBatch {β : Type} [Backend β] (b : Batch) : Action (Manager β) (List Int64) :=
  match b.firstQuery? with
  | some index => Action.fail (Batch.queryRefused index)
  | none => if b.isEmpty then pure [] else withConnection b.run

end SqlAccess
