import SqlAccess.Executor
import SqlAccess.Number.Wide

/-!
# Units of work

A unit of work is a transaction that is opened, worked in and settled: committed if the work
succeeded, and otherwise rolled back. A failed commit is rolled back too. The error that is
answered is always the first one; a rollback that fails is only reported.
-/

namespace SqlAccess

variable {σ α : Type} [Executor σ]

/-- Rolls back; a failure is reported and goes no further. -/
def rollbackQuietly : Action σ Unit := do
  match ← Action.attempt Executor.rollback with
  | .ok _ => pure ()
  | .error e =>
    Action.change (Executor.report (.ofMessage .warn "rollback failed" [("error", e.message)]))

/-- Ends a unit of work: commits a result, and rolls back after an error or a failed commit. -/
def settle (r : Except DbError α) : Action σ α := do
  match r with
  | .error e =>
    rollbackQuietly
    Action.fail e
  | .ok a =>
    match ← Action.attempt Executor.commit with
    | .ok _ => pure a
    | .error e =>
      rollbackQuietly
      Action.fail e

/-- Does an action in a unit of work of its own. -/
def asUnit (work : Action σ α) : Action σ α := do
  Executor.begin
  let r ← work.attempt
  settle r

/-- The counts of a failed unit of work: the rows changed by the statements that ran, as
far as they fit, and -1 for the others. -/
def failedCounts (changed : List UInt64) (missing : Nat) : List Int64 :=
  changed.map Number.clampToInt64 ++ List.replicate missing (-1)

/-- Runs statements in order inside an open transaction, with an action between neighbours that is
told how many have run. The first statement that fails is reported and the work is rolled back. -/
def runInOrder (warning : Nat → DbError → Event) (between : Nat → Action σ Unit)
    (changed : List UInt64) : List Prepared → Action σ (List UInt64)
  | [] => pure changed
  | p :: rest => do
    match ← Action.attempt (Executor.execute p.sql p.parameters.values) with
    | .error e =>
      Action.change (Executor.report (warning changed.length e))
      rollbackQuietly
      Action.fail (.batchFailed changed.length p.sql (failedCounts changed (rest.length + 1)) e)
    | .ok n =>
      if rest.isEmpty then pure () else between (changed.length + 1)
      runInOrder warning between (changed ++ [n]) rest

end SqlAccess
