import SqlAccess.Manager.Batch
import SqlAccess.Proofs.Manager.Transaction

/-!
# What cannot be written is never sent

A statement under construction that is refused in every dialect is refused wherever it runs. An
executor is left as it is, inside a transaction too, a batch does not take the statement, and a call
on a manager sends at most what opens and rolls back its unit of work.
-/

namespace SqlAccess

/-- A unit of work of which nothing but the frame is sent, and what comes of it. -/
inductive RolledBack {α : Type} (e : DbError) : List Sent → Except DbError α → Bool → Prop
  | notBegun (failure : DbError) :
    RolledBack e [.control "BEGIN" (.error failure)] (.error failure) false
  | rolledBack (answer : Except DbError Unit) :
    RolledBack e [.control "BEGIN" (.ok ()), .control "ROLLBACK" answer] (.error e) false

/-- Of a connection that is handed out and taken back nothing is asked. -/
def Unasked {α : Type} (e : DbError) (sent : List Sent) (r : Except DbError α) (isOpen : Bool) :
    Prop := sent = [] ∧ r = .error e ∧ isOpen = false

/-- Every way to run a statement that changes rows ends with an error and sends none of it. -/
structure NeverSent {α : Type} [Mutation α] (q : α) (e : DbError) : Prop where
  /-- An executor that is to run the statement is left as it is. -/
  execute : ∀ {σ : Type} [Executor σ] (s : σ), (Mutation.execute q).run s = (.error e, s)
  /-- An executor that is to read its rows is left as it is. -/
  query : ∀ {σ : Type} [Executor σ] (s : σ), (Statement.query q).run s = (.error e, s)
  /-- An open transaction and its manager are left as they are. -/
  within : ∀ {β : Type} [Backend β] (t : Transaction β) (m : Manager β),
    (t.within (Mutation.execute q)).run m = (.ok (.error e, t), m)
  /-- A manager runs it as a unit of work of which nothing but the frame is sent. -/
  runMutation : ∀ {β : Type} [Backend β] (m : Manager (Recorded β Sent)),
    m.Serves (Manager.runMutation q) (asUnit (Mutation.execute q)) fun _ => RolledBack e
  /-- A manager reads its rows without asking for any. -/
  fetch : ∀ {β : Type} [Backend β] (m : Manager (Recorded β Sent)),
    m.Serves (Manager.fetch q) (Statement.query q) fun _ => Unasked e
  /-- A batch does not take it. -/
  batch : ∀ (d : Dialect) (b : Batch), Batch.addStatement d q b = .error e

section Refused

variable {α : Type} {q : α} {e : DbError}

/-- An executor that is to run what is refused is left as it is. -/
theorem run_execute_refused [Mutation α] (h : ∀ d, Statement.prepareFor d q = .error e) {σ : Type}
    [Executor σ] (s : σ) : (Mutation.execute q).run s = (.error e, s) := by
  refine (Action.run_look_bind _ rfl).trans (Action.run_bind_error ?_)
  rw [Action.run_ofExcept, h]

/-- An executor that is to read the rows of what is refused is left as it is. -/
theorem run_query_refused [Statement α] (h : ∀ d, Statement.prepareFor d q = .error e) {σ : Type}
    [Executor σ] (s : σ) : (Statement.query q).run s = (.error e, s) := by
  refine (Action.run_look_bind _ rfl).trans (Action.run_bind_error ?_)
  rw [Action.run_ofExcept, h]

/-- A unit of work that is refused inside sends nothing but its frame. -/
theorem Settles.rolledBack {inner : List Sent → Except DbError α → Prop} {sent : List Sent}
    {r : Except DbError α} (h : Settles inner sent r)
    (hinner : ∀ sent r, inner sent r → sent = [] ∧ r = .error e) : RolledBack e sent r false := by
  cases h with
  | notBegun failure => exact .notBegun failure
  | settled hin hends =>
    obtain ⟨rfl, rfl⟩ := hinner _ _ hin
    cases hends with
    | rolledBack _ answer => exact .rolledBack answer

/-- What is refused in every dialect is never sent. -/
theorem neverSent_of_refused [Mutation α] (h : ∀ d, Statement.prepareFor d q = .error e) :
    NeverSent q e where
  execute := run_execute_refused h
  query := run_query_refused h
  within t m := by
    have hwork : (Guarded.unguard (Mutation.execute q)).run (m.session t.connection) =
        (.error e, m.session t.connection) := by
      rw [Guarded.unguard_mutation, run_execute_refused h]
    have hon : (Manager.on t.connection (Guarded.unguard (Mutation.execute q))).run m =
        (.ok (.error e, t.connection), m) := by
      refine (Manager.run_on _ (m.session t.connection) m).trans ?_
      rw [hwork]
      rfl
    exact Action.run_bind_ok hon
  runMutation {β} _ m := by
    have hwork (s : Session (Recorded β Sent)) :
        Session.Does (fun sent r => sent = [] ∧ r = .error e) (Mutation.execute q) s :=
      Session.does_of_same (run_execute_refused h s) rfl ⟨rfl, rfl⟩
    refine Manager.serves_withConnection fun s _ hclosed => ?_
    obtain ⟨sent, hsettles, hsends, hend⟩ :=
      Session.settles_asUnit hclosed fun t _ => hwork t
    rw [hend]
    exact ⟨sent, hsends, hsettles.rolledBack fun _ _ => id⟩
  fetch m := by
    refine Manager.serves_withConnection fun s _ hclosed => ⟨[], ?_⟩
    rw [run_query_refused h s]
    exact ⟨Session.sends_nil s, rfl, rfl, hclosed⟩
  batch d b := by rw [Batch.addStatement, h]; rfl

end Refused

end SqlAccess
