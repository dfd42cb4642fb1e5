import SqlAccess.Proofs.Connection.Sent

/-!
# What a unit of work sends

A unit of work on a session sends one BEGIN, nothing more if that fails, then what its work sends,
and then what settles it: a COMMIT after a result, a ROLLBACK after an error, and both if the COMMIT
fails. It has a result exactly if a COMMIT succeeds, and no transaction is open after it.
-/

namespace SqlAccess

variable {α β γ : Type}

/-- What settles a result or an error, and what comes of it; the answer to a ROLLBACK does not
matter. -/
inductive Ends : Except DbError α → List Sent → Except DbError α → Prop
  | rolledBack (e : DbError) (answer : Except DbError Unit) :
    Ends (.error e) [.control "ROLLBACK" answer] (.error e)
  | committed (a : α) : Ends (.ok a) [.control "COMMIT" (.ok ())] (.ok a)
  | notCommitted (a : α) (e : DbError) (answer : Except DbError Unit) :
    Ends (.ok a) [.control "COMMIT" (.error e), .control "ROLLBACK" answer] (.error e)

/-- What a unit of work sends and what comes of it, from what its work sends. -/
inductive Settles (inner : List Sent → Except DbError α → Prop) :
    List Sent → Except DbError α → Prop
  | notBegun (e : DbError) : Settles inner [.control "BEGIN" (.error e)] (.error e)
  | settled {sent last : List Sent} {r out : Except DbError α} (hinner : inner sent r)
    (hends : Ends r last out) : Settles inner (.control "BEGIN" (.ok ()) :: sent ++ last) out

/-- Only a COMMIT that succeeds leaves a result. -/
theorem Ends.isOk_iff {r out : Except DbError α} {sent : List Sent} (h : Ends r sent out) :
    (∃ a, out = .ok a) ↔ .control "COMMIT" (.ok ()) ∈ sent := by
  cases h with
  | rolledBack e answer => simp
  | committed a => simp
  | notCommitted a e answer => simp

/-- Nothing that is sent controls transactions. -/
def NoControl (sent : List Sent) : Prop := ∀ x ∈ sent, x.isControl = false

/-- Where nothing is sent no transaction is controlled. -/
theorem noControl_nil : NoControl [] := fun _ h => absurd h List.not_mem_nil

/-- What controls no transactions in two parts controls none as a whole. -/
theorem NoControl.append {sent more : List Sent} (h : NoControl sent) (h' : NoControl more) :
    NoControl (sent ++ more) :=
  fun x hx => (List.mem_append.mp hx).elim (h x) (h' x)

/-- A statement that controls transactions is not among those that do not. -/
theorem NoControl.notMem {sent : List Sent} (h : NoControl sent) {sql : String}
    {answer : Except DbError Unit} : .control sql answer ∉ sent := by
  intro hmem
  have hcontrol := h _ hmem
  cases hcontrol

/-- A unit of work has a result exactly if a COMMIT succeeds. -/
theorem Settles.isOk_iff {inner : List Sent → Except DbError α → Prop} {sent : List Sent}
    {r : Except DbError α} (h : Settles inner sent r)
    (hinner : ∀ sent r, inner sent r → NoControl sent) :
    (∃ a, r = .ok a) ↔ .control "COMMIT" (.ok ()) ∈ sent := by
  cases h with
  | notBegun e => simp
  | @settled sent last r out hwork hends =>
    rw [hends.isOk_iff]
    simp [(hinner _ _ hwork).notMem]

/-- No statement with parameters controls transactions. -/
theorem Executes.noControl {binder : Binder} {sql : String} {values : List Value}
    {sent : List Sent} {r : Except DbError UInt64} (h : Executes binder sql values sent r) :
    NoControl sent := by
  cases h <;> simp [NoControl, Sent.isControl]

/-- No query controls transactions. -/
theorem Queries.noControl {binder : Binder} {sql : String} {values : List Value}
    {sent : List Sent} {r : Except DbError RecordSet} (h : Queries binder sql values sent r) :
    NoControl sent := by
  cases h <;> simp [NoControl, Sent.isControl]

/-- A statement under construction controls no transactions if the written one does not. -/
theorem Written.noControl [Statement α] {d : Dialect} {q : α}
    {does : Prepared → List Sent → Except DbError γ → Prop} {sent : List Sent}
    {r : Except DbError γ} (h : Written d q does sent r)
    (hdoes : ∀ p, does p sent r → NoControl sent) : NoControl sent := by
  cases h with
  | refused => exact noControl_nil
  | prepared _ h => exact hdoes _ h

/-- No statement under construction that changes rows controls transactions. -/
theorem Writes.noControl [Statement α] {d : Dialect} {binder : Binder} {q : α} {sent : List Sent}
    {r : Except DbError UInt64} (h : Writes d binder q sent r) : NoControl sent :=
  Written.noControl h fun _ h => h.noControl

/-- No statement under construction whose rows are read controls transactions. -/
theorem Reads.noControl [Statement α] {d : Dialect} {binder : Binder} {q : α} {sent : List Sent}
    {r : Except DbError RecordSet} (h : Reads d binder q sent r) : NoControl sent :=
  Written.noControl h fun _ h => h.noControl

variable [Backend β]

/-- To look for a generated id controls no transactions. -/
theorem Identifies.noControl {s : Session (Recorded β Sent)} {sent : List Sent}
    {r : Except DbError UInt64} (h : Identifies s sent r) : NoControl sent := by
  cases h <;> simp [NoControl, Sent.isControl]

/-- To insert a row and look for its id controls no transactions. -/
theorem Inserts.noControl {s : Session (Recorded β Sent)} {binder : Binder} {q : Insert}
    {sent : List Sent} {r : Except DbError UInt64} (h : Inserts s binder q sent r) :
    NoControl sent := by
  cases h with
  | failed h => exact h.noControl
  | inserted h hid => exact h.noControl.append hid.noControl

namespace Session

/-- A BEGIN outside of a transaction is sent, and opens one if it succeeds. -/
theorem sends_begin {s : Session (Recorded β Sent)} (h : s.connection.inTransaction = false) :
    ∃ answer t, begin.run s = (answer, t) ∧ s.Sends [.control "BEGIN" answer] t ∧
      t.connection.inTransaction = answer.isOk := by
  obtain ⟨t, hrun, hconnection⟩ := run_begin_outside h
  exact ⟨_, t, hrun, sends_of_connection hconnection rfl, by rw [hconnection]⟩

/-- A COMMIT is sent, and ends the transaction if it succeeds. -/
theorem sends_commit (s : Session (Recorded β Sent)) :
    ∃ answer t, commit.run s = (answer, t) ∧ s.Sends [.control "COMMIT" answer] t ∧
      (answer.isOk = true → t.connection.inTransaction = false) := by
  obtain ⟨t, hrun, hconnection⟩ := run_commit s
  refine ⟨_, t, hrun, sends_of_connection hconnection rfl, fun hok => ?_⟩
  rw [hconnection, hok, Bool.not_true, Bool.and_false]

/-- A ROLLBACK is sent, and no transaction is open after it. -/
theorem sends_rollback (s : Session (Recorded β Sent)) :
    ∃ answer t, rollback.run s = (answer, t) ∧ s.Sends [.control "ROLLBACK" answer] t ∧
      t.connection.inTransaction = false := by
  obtain ⟨t, hrun, hconnection⟩ := run_rollback s
  refine ⟨_, t, hrun, sends_of_connection hconnection ?_, by rw [hconnection]⟩
  split <;> rfl

/-- A report sends nothing. -/
theorem sends_report {s t : Session (Recorded β Sent)} {sent : List Sent} (h : s.Sends sent t)
    (e : Event) : s.Sends sent (Executor.report e t) :=
  ⟨h.log_eq, h.settings_eq⟩

/-- The failure of a ROLLBACK is only reported. -/
theorem sends_afterRollback (s : Session (Recorded β Sent)) :
    ∃ answer, s.Sends [.control "ROLLBACK" answer] (afterRollback s) ∧
      (afterRollback s).connection.inTransaction = false := by
  obtain ⟨answer, t, hrun, hsends, hflag⟩ := sends_rollback s
  have hrollback : Executor.rollback.run s = (answer, t) := hrun
  refine ⟨answer, ?_⟩
  rcases afterRollback_cases s with h | ⟨event, h⟩
  · rw [h, hrollback]
    exact ⟨hsends, hflag⟩
  · rw [h, hrollback]
    exact ⟨sends_report hsends event, hflag⟩

/-- Settling sends what ends a unit of work, and no transaction is open after it. -/
theorem sends_settle (r : Except DbError α) (s : Session (Recorded β Sent)) :
    ∃ last, Ends r last ((settle r).run s).1 ∧ s.Sends last ((settle r).run s).2 ∧
      ((settle r).run s).2.connection.inTransaction = false := by
  cases r with
  | error e =>
    obtain ⟨answer, hsends, hflag⟩ := sends_afterRollback s
    rw [run_settle_error]
    exact ⟨_, .rolledBack e answer, hsends, hflag⟩
  | ok a =>
    obtain ⟨_ | _, t, hrun, hsends, hflag⟩ := sends_commit s
    · obtain ⟨answer, hback, hclosed⟩ := sends_afterRollback t
      rw [run_settle_failed hrun]
      exact ⟨_, .notCommitted a _ answer, hsends.trans hback, hclosed⟩
    · rw [run_settle_ok hrun]
      exact ⟨_, .committed a, hsends, hflag rfl⟩

/-- A unit of work that starts outside of a transaction settles what its work comes to after the
BEGIN. -/
theorem settles_asUnit {inner : Session (Recorded β Sent) → List Sent → Except DbError α → Prop}
    {work : Action (Session (Recorded β Sent)) α} {s : Session (Recorded β Sent)}
    (hclosed : s.connection.inTransaction = false)
    (hwork : ∀ t, t.connection.settings = s.connection.settings → Does (inner t) work t) :
    ∃ sent, Settles (inner (begin.run s).2) sent ((asUnit work).run s).1 ∧
      s.Sends sent ((asUnit work).run s).2 ∧
      ((asUnit work).run s).2.connection.inTransaction = false := by
  obtain ⟨e | _, t, hrun, hsends, hflag⟩ := sends_begin hclosed
  · have hfail : (asUnit work).run s = (.error e, t) := Action.run_bind_error hrun
    rw [hfail]
    exact ⟨_, .notBegun e, hsends, hflag⟩
  · obtain ⟨sent, hinner, hdone, -⟩ := hwork t hsends.settings_eq
    obtain ⟨last, hends, hlast, hend⟩ := sends_settle (work.run t).1 (work.run t).2
    have hunit : (asUnit work).run s = (settle (work.run t).1).run (work.run t).2 :=
      (Action.run_bind_ok hrun).trans (Action.run_bind_ok (Action.run_attempt work t))
    rw [hunit, hrun]
    exact ⟨_, .settled hinner hends, (hsends.trans hdone).trans hlast, hend⟩

end Session

end SqlAccess
