import SqlAccess.Proofs.UnitOfWork.Rules
import SqlAccess.Script

/-!
# Calls and their answers

An executor that is recorded keeps a log of its calls, each with the answer it got. The log says
what was asked in which order, how many rows were changed, and where it stands inside a transaction.
A log keeps to a plan of calls as long as all of them succeed and are the ones that are planned.
-/

namespace SqlAccess

/-- A call on an executor with its answer. -/
inductive Exchange
  | execute (sql : String) (values : List Value) (answer : Except DbError UInt64)
  | query (sql : String) (values : List Value) (answer : Except DbError RecordSet)
  | lastInsertId (answer : Except DbError UInt64)
  | begin (answer : Except DbError Unit)
  | commit (answer : Except DbError Unit)
  | rollback (answer : Except DbError Unit)

namespace Exchange

/-- The call that was answered. -/
def call : Exchange → Call
  | .execute sql values _ => .execute sql values
  | .query sql values _ => .query sql values
  | .lastInsertId _ => .lastInsertId
  | .begin _ => .begin
  | .commit _ => .commit
  | .rollback _ => .rollback

/-- Whether the answer is not an error. -/
def isOk : Exchange → Bool
  | .execute _ _ answer => answer.isOk
  | .query _ _ answer => answer.isOk
  | .lastInsertId answer => answer.isOk
  | .begin answer => answer.isOk
  | .commit answer => answer.isOk
  | .rollback answer => answer.isOk

/-- Whether a transaction is open after a call: a BEGIN that succeeds opens one, and every COMMIT or
ROLLBACK ends it. -/
def isOpenAfter (isOpen : Bool) : Exchange → Bool
  | .begin answer => isOpen || answer.isOk
  | .commit _ => false
  | .rollback _ => false
  | _ => isOpen

/-- The number of rows changed, if the call was to execute a statement and succeeded. -/
def changed? : Exchange → Option UInt64
  | .execute _ _ (.ok n) => some n
  | _ => none

end Exchange

/-- The statement to execute, if a call is to execute one. -/
def Call.statement? : Call → Option String
  | .execute sql _ => some sql
  | _ => none

/-- Whether a call is a COMMIT. -/
def Call.isCommit : Call → Bool
  | .commit => true
  | _ => false

/-- Whether a transaction is open at the end of a log. -/
def isOpen (log : List Exchange) : Bool := log.foldl Exchange.isOpenAfter false

/-- The statements of a log that were executed, successfully or not. -/
def executedIn (log : List Exchange) : List String :=
  (log.map Exchange.call).filterMap Call.statement?

/-- The numbers of rows that the statements of a log changed. -/
def changedIn (log : List Exchange) : List UInt64 := log.filterMap Exchange.changed?

/-- The number of COMMITs in a log. -/
def commitsIn (log : List Exchange) : Nat := (log.map Exchange.call).countP Call.isCommit

/-- Whether a transaction is open is known from the end of a log on. -/
theorem isOpen_append (log more : List Exchange) :
    isOpen (log ++ more) = more.foldl Exchange.isOpenAfter (isOpen log) := List.foldl_append

/-- The statements of two logs are those of the first before those of the second. -/
theorem executedIn_append (log more : List Exchange) :
    executedIn (log ++ more) = executedIn log ++ executedIn more := by
  rw [executedIn, List.map_append, List.filterMap_append]
  rfl

/-- The numbers of rows of two logs are those of the first before those of the second. -/
theorem changedIn_append (log more : List Exchange) :
    changedIn (log ++ more) = changedIn log ++ changedIn more := List.filterMap_append

/-- Every statement of a log is executed while a transaction is open. -/
def StatementsInside (log : List Exchange) : Prop :=
  ∀ before sql values answer after, log = before ++ .execute sql values answer :: after →
    isOpen before = true

/-- One more call keeps the statements inside, unless it executes one outside. -/
theorem StatementsInside.snoc {log : List Exchange} {x : Exchange} (h : StatementsInside log)
    (hx : x.call.statement?.isSome → isOpen log = true) : StatementsInside (log ++ [x]) := by
  intro before sql values answer after heq
  rcases List.eq_nil_or_concat after with rfl | ⟨after, y, rfl⟩
  · obtain ⟨rfl, hlast⟩ := List.append_inj' heq rfl
    obtain rfl := List.singleton_inj.mp hlast
    exact hx rfl
  · rw [List.concat_eq_append, ← List.cons_append, ← List.append_assoc] at heq
    exact h before sql values answer after (List.append_inj' heq rfl).1

/-- A log that has kept to a plan, up to the calls that are still to come. -/
structure Kept (plan : List Call) (log : List Exchange) (rest : List Call) : Prop where
  /-- All calls so far have succeeded. -/
  all_ok : ∀ x ∈ log, x.isOk = true
  /-- The calls so far and those to come are the planned ones. -/
  plan_eq : log.map Exchange.call ++ rest = plan
  /-- Statements were executed only while a transaction was open. -/
  inside : StatementsInside log

/-- Nothing has been called at first. -/
theorem kept_nil (plan : List Call) : Kept plan [] plan where
  all_ok := fun _ hx => absurd hx List.not_mem_nil
  plan_eq := rfl
  inside := fun before _ _ _ _ h => by simp at h

/-- The next call keeps to the plan if it is the planned one and succeeds. -/
theorem Kept.snoc {plan : List Call} {log : List Exchange} {x : Exchange} {rest : List Call}
    (h : Kept plan log (x.call :: rest)) (hok : x.isOk = true)
    (hx : x.call.statement?.isSome → isOpen log = true) : Kept plan (log ++ [x]) rest where
  all_ok := by
    intro y hy
    rcases List.mem_append.mp hy with hy | hy
    · exact h.all_ok y hy
    · rw [List.mem_singleton.mp hy]
      exact hok
  plan_eq := by
    rw [← h.plan_eq, List.map_append, List.append_assoc]
    rfl
  inside := h.inside.snoc hx

/-- The planned statements are those executed so far and those to come. -/
theorem Kept.executedIn_append {plan : List Call} {log : List Exchange} {rest : List Call}
    (h : Kept plan log rest) :
    executedIn log ++ rest.filterMap Call.statement? = plan.filterMap Call.statement? := by
  rw [← h.plan_eq, List.filterMap_append]
  rfl

/-- Something that is called, together with a log of the calls. -/
structure Recorded (σ ε : Type) where
  inner : σ
  /-- The calls, the first one first. -/
  log : List ε := []

namespace Recorded

variable {σ ε α : Type}

/-- An action of what is inside, with an entry for it in the log. -/
def note (entry : Except DbError α → ε) (a : Action σ α) : Action (Recorded σ ε) α := fun s =>
  ((a.run s.inner).1, ⟨(a.run s.inner).2, s.log ++ [entry (a.run s.inner).1]⟩)

/-- The entry of an action ends with the answer that was got. -/
theorem log_of_run_note {entry : Except DbError α → ε} {a : Action σ α} {s t : Recorded σ ε}
    {r : Except DbError α} (h : (note entry a).run s = (r, t)) : t.log = s.log ++ [entry r] := by
  obtain ⟨hr, ht⟩ := Prod.mk.inj h
  rw [← ht, ← hr]

instance [Executor σ] : Executor (Recorded σ Exchange) where
  dialect s := Executor.dialect s.inner
  execute sql values := note (.execute sql values) (Executor.execute sql values)
  query sql values := note (.query sql values) (Executor.query sql values)
  lastInsertId := note .lastInsertId Executor.lastInsertId
  begin := note .begin Executor.begin
  commit := note .commit Executor.commit
  rollback := note .rollback Executor.rollback
  report e s := { s with inner := Executor.report e s.inner }

variable [Executor σ]

/-- A report is no call. -/
@[simp] theorem log_report (e : Event) (s : Recorded σ Exchange) :
    (Executor.report e s).log = s.log := rfl

/-- A rollback is in the log once, whatever its answer. -/
theorem log_afterRollback (s : Recorded σ Exchange) :
    ∃ answer, (afterRollback s).log = s.log ++ [.rollback answer] := by
  refine ⟨((Executor.rollback (σ := σ)).run s.inner).1, ?_⟩
  rcases afterRollback_cases s with h | ⟨event, h⟩
  · rw [h]
    rfl
  · rw [h]
    rfl

end Recorded

end SqlAccess
