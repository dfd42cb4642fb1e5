import SqlAccess.Connection.Basic
import SqlAccess.UnitOfWork

/-!
# Transactions on an executor

Inside a transaction that somebody else will finish, statements run as they do outside, but opening,
committing and rolling back are refused, and nothing is sent for them.
-/

namespace SqlAccess

/-- An executor whose transaction is finished by others. -/
structure Guarded (σ : Type) where
  inner : σ

namespace Guarded

variable {σ α : Type}

/-- An action of the executor inside. -/
def lift (a : Action σ α) : Action (Guarded σ) α := a.zoom inner fun s _ => ⟨s⟩

instance [Executor σ] : Executor (Guarded σ) where
  dialect s := Executor.dialect s.inner
  execute sql values := lift (Executor.execute sql values)
  query sql values := lift (Executor.query sql values)
  lastInsertId := lift Executor.lastInsertId
  begin := Action.fail (.validation "transaction already open")
  commit := Action.fail (.validation "use DbTrx::commit to finish a transaction")
  rollback := Action.fail (.validation "use DbTrx::rollback to finish a transaction")
  report e s := ⟨Executor.report e s.inner⟩

/-- An action inside a transaction, done by the executor that will finish it. -/
def unguard (a : Action (Guarded σ) α) : Action σ α := a.zoom (⟨·⟩) fun s _ => s.inner

end Guarded

end SqlAccess
