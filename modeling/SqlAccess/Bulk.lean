import SqlAccess.UnitOfWork

/-!
# Inserts of many rows

Rows are written as tuples of literals and packed into as few statements as a byte budget
allows, as many into each as the longest tuple permits, in the order they were given. The
statements run as one unit of work, or in steps of ten that are committed one by one.
-/

namespace SqlAccess

/-- An insert of many rows into one table. -/
structure BulkInsert where
  table : String
  columns : List String
  rows : List (List Value) := []
  /-- The most bytes of tuples in one statement, unless a single tuple is longer. -/
  byteBudget : Nat := 1048576
  stepCommit : Bool := false
  dialect : Dialect := .mysql
  deriving Inhabited

/-- What a finished insert of many rows did. -/
structure BulkReport where
  statements : Nat
  rows : Nat
  /-- The rows that the server counted. -/
  affected : UInt64
  deriving Repr, DecidableEq, Inhabited

namespace BulkInsert

/-- The number of statements after which a step is committed. -/
def stepLength : Nat := 10

/-- The number of tuples of one statement, by the budget and the longest tuple. -/
def rowsPerStatement (budget longest : Nat) : Nat := max (budget / max longest 1) 1

/-- The tuple of a row. -/
def tuple (d : Dialect) (row : List Value) : String :=
  "(" ++ Text.joinWith ", " (row.map d.literal) ++ ")"

/-- The error of a row that has not one value for each column. -/
def badRow (index size expected : Nat) : DbError :=
  .validation ("row " ++ toString index ++ " has " ++ toString size ++ " values, expected " ++
    toString expected)

/-- The tuples of rows from an index on; each row has to have a given width. -/
def tuplesFrom (d : Dialect) (width index : Nat) : List (List Value) → Except DbError (List String)
  | [] => .ok []
  | row :: rest =>
    if row.length = width then (tuplesFrom d width (index + 1) rest).map (tuple d row :: ·)
    else .error (badRow index row.length width)

/-- A list in pieces of a size that is at least one; the last piece may be shorter. -/
def chunks {α : Type} (size : Nat) : List α → List (List α)
  | [] => []
  | x :: rest => (x :: rest.take (size - 1)) :: chunks size (rest.drop (size - 1))
termination_by xs => xs.length
decreasing_by rw [List.length_drop, List.length_cons]; omega

/-- The number of bytes of the longest text. -/
def longest (texts : List String) : Nat := (texts.map String.utf8ByteSize).foldl max 0

/-- What stands before the tuples of a statement. -/
def head (b : BulkInsert) : String :=
  "INSERT INTO " ++ b.table ++ " (" ++ Text.joinWith ", " b.columns ++ ") VALUES "

/-- The statements in a dialect. -/
def planFor (d : Dialect) (b : BulkInsert) : Except DbError (List String) :=
  if b.columns.isEmpty then .error (.validation "bulk insert needs at least one column")
  else
    (tuplesFrom d b.columns.length 0 b.rows).map fun tuples =>
      (chunks (rowsPerStatement b.byteBudget (longest tuples)) tuples).map fun piece =>
        b.head ++ Text.joinWith "," piece

/-- The statements in the insert's own dialect. -/
def plan (b : BulkInsert) : Except DbError (List String) := b.planFor b.dialect

/-- The report about a statement that failed. -/
def failure (b : BulkInsert) (index : Nat) (e : DbError) : Event :=
  .ofMessage .warn "bulk insert failed; rolling back"
    [("table", b.table), ("index", toString index), ("error", e.message)]

/-- The report about a committed step. -/
def stepDone (b : BulkInsert) (statements : Nat) : Event :=
  .ofMessage .debug "bulk insert step commit"
    [("table", b.table), ("committed", toString statements)]

variable {σ : Type} [Executor σ]

/-- Commits a step and opens the next one, if steps are on and the step is full. -/
def step (b : BulkInsert) (statements : Nat) : Action σ Unit := do
  if b.stepCommit && statements % stepLength = 0 then
    settle (.ok ())
    Executor.begin
    Action.change (Executor.report (b.stepDone statements))
  else pure ()

/-- The report after all statements; the count of rows goes round at the largest word. -/
def reportOf (b : BulkInsert) (changed : List UInt64) : BulkReport :=
  { statements := changed.length, rows := b.rows.length, affected := changed.foldl (· + ·) 0 }

/-- Runs planned statements in order. -/
def run (b : BulkInsert) (statements : List String) : Action σ BulkReport := do
  Executor.begin
  let changed ← runInOrder b.failure b.step [] (statements.map fun sql => ⟨sql, .empty⟩)
  settle (.ok (b.reportOf changed))

end BulkInsert

end SqlAccess
