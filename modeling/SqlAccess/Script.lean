import SqlAccess.Executor

/-!
# Scripts

A script stands in for a connection. It answers each call with the next answer of the call's queue,
or with a fixed one when the queue is empty, and keeps a record of the calls.
-/

namespace SqlAccess

/-- A call on an executor. -/
inductive Call
  | execute (sql : String) (values : List Value)
  | query (sql : String) (values : List Value)
  | lastInsertId
  | begin
  | commit
  | rollback
  deriving Inhabited

/-- Answers for calls, and the calls that were made. -/
structure Script where
  dialect : Dialect
  executions : List (Except DbError UInt64) := []
  queries : List (Except DbError RecordSet) := []
  ids : List (Except DbError UInt64) := []
  begins : List (Except DbError Unit) := []
  commits : List (Except DbError Unit) := []
  rollbacks : List (Except DbError Unit) := []
  /-- The calls, the first one first. -/
  calls : List Call := []
  events : List Event := []

namespace Script

/-- Records a call. -/
def record (c : Call) (s : Script) : Script := { s with calls := s.calls ++ [c] }

/-- Answers a call with the next answer of a queue, or with a fixed one. -/
def answer {α : Type} (c : Call) (queue : Script → List (Except DbError α))
    (keep : List (Except DbError α) → Script → Script) (otherwise : α) : Action Script α := fun s =>
  match queue s with
  | [] => (.ok otherwise, s.record c)
  | r :: rest => (r, keep rest (s.record c))

instance : Executor Script where
  dialect := Script.dialect
  execute sql values :=
    answer (.execute sql values) executions (fun rest s => { s with executions := rest }) 1
  query sql values :=
    answer (.query sql values) queries (fun rest s => { s with queries := rest }) .empty
  lastInsertId := answer .lastInsertId ids (fun rest s => { s with ids := rest }) 0
  begin := answer .begin begins (fun rest s => { s with begins := rest }) ()
  commit := answer .commit commits (fun rest s => { s with commits := rest }) ()
  rollback := answer .rollback rollbacks (fun rest s => { s with rollbacks := rest }) ()
  report e s := { s with events := s.events ++ [e] }

end Script

end SqlAccess
