import SqlAccess.Connection.Basic

/-!
# What calls do to a connection

Of each call on a session, its result and the connection after it: the monitor and the reports touch
neither. A statement works on the backend if its parameters are accepted. The calls that control
transactions work on the backend and on the flag that tells whether a transaction is open.
-/

namespace SqlAccess.Session

variable {β α : Type}

/-- A report leaves the connection as it is. -/
@[simp] theorem connection_report (events : List Event) (s : Session β) :
    (s.report events).connection = s.connection := rfl

/-- What the binder of a session makes of parameters. -/
def bound (s : Session β) (values : List Value) : Except DbError Bound :=
  (s.connection.settings.binder.bind values).2

/-- No parameters are always accepted. -/
theorem bound_nil (s : Session β) : s.bound [] = .ok ⟨[], true⟩ := by
  simp [bound, Binder.bind, Binder.check, Except.map]

/-- Parameters that are not accepted end what was to be done with them. -/
theorem run_bind_refused {s : Session β} {values : List Value} {e : DbError}
    (h : s.bound values = .error e) (work : List Value → Action (Session β) α) :
    (Session.bind values >>= work).run s =
      (.error e, s.report (s.connection.settings.binder.bind values).1) :=
  Action.run_bind_error (congrArg (fun r => (r.map Bound.values, _)) h)

/-- Parameters that are accepted are handed on as they are bound. -/
theorem run_bind_accepted {s : Session β} {values : List Value} {b : Bound}
    (h : s.bound values = .ok b) (work : List Value → Action (Session β) α) :
    (Session.bind values >>= work).run s =
      (work b.values).run (s.report (s.connection.settings.binder.bind values).1) :=
  Action.run_bind_ok (congrArg (fun r => (r.map Bound.values, _)) h)

variable [Backend β]

/-- To tell how a statement ended leaves the connection as it is. -/
@[simp] theorem connection_finish (c : StatementContext) (o : Outcome) (s : Session β) :
    (s.finish c o).connection = s.connection := by
  unfold finish
  dsimp only
  split <;> rfl

/-- A backend after a statement: one that ran out of time is given up. -/
def afterStatement : Except DbError α × β → β
  | (.error (.timeout _), b) => Backend.cancel b
  | (_, b) => b

/-- Of a statement that ran out of time only the backend learns. -/
theorem connection_cancelTimeout (r : Except DbError α) (s : Session β) :
    (cancelTimeout r s).connection =
      { s.connection with backend := afterStatement (r, s.connection.backend) } := by
  rcases r with e | a
  · cases e <;> rfl
  · rfl

/-- A statement gives the result of the backend, and changes only the backend. -/
theorem run_runStatement (sql : String) (values : List Value) (describe : α → Outcome)
    (a : Action β α) (s : Session β) :
    ∃ t : Session β, (runStatement sql values describe a).run s =
        ((a.run s.connection.backend).1, t) ∧
      t.connection =
        { s.connection with backend := afterStatement (a.run s.connection.backend) } := by
  refine ⟨_, rfl, ?_⟩
  rw [connection_finish, connection_cancelTimeout]
  rfl

/-- What a statement with parameters comes to: parameters that are not accepted stop it, and with
accepted ones it gives the answer of the backend, which is all that changes. -/
inductive Answers (s : Session β) (values : List Value) (answer : Bound → Except DbError α × β) :
    Except DbError α × Session β → Prop
  | refused {e : DbError} {t : Session β} (hbound : s.bound values = .error e)
    (hsame : t.connection = s.connection) : Answers s values answer (.error e, t)
  | answered {b : Bound} {t : Session β} (hbound : s.bound values = .ok b)
    (hconnection : t.connection =
      { s.connection with backend := afterStatement (answer b) }) :
    Answers s values answer ((answer b).1, t)

/-- The backend's answer to a statement whose parameters are accepted. -/
def executeAnswer (s : Session β) (sql : String) (b : Bound) : Except DbError UInt64 × β :=
  (Backend.execute s.connection.settings.statementTimeout sql b.values).run s.connection.backend

/-- The backend's answer to a query whose parameters are accepted. -/
def queryAnswer (s : Session β) (sql : String) (b : Bound) : Except DbError RecordSet × β :=
  (Backend.query s.connection.settings.statementTimeout s.connection.settings.maxBlobBytes sql
    b.values).run s.connection.backend

/-- A statement whose parameters are accepted is run with them as they are bound. -/
theorem run_execute_accepted (sql : String) {values : List Value} {s : Session β} {b : Bound}
    (h : s.bound values = .ok b) :
    (execute sql values).run s =
      (runStatement sql b.values .affected
        (Backend.execute s.connection.settings.statementTimeout sql b.values)).run
          (s.report (s.connection.settings.binder.bind values).1) := by
  rw [execute, run_bind_accepted h, Action.run_look_bind _ rfl]
  rfl

/-- A query whose parameters are accepted is run with them as they are bound. -/
theorem run_query_accepted (sql : String) {values : List Value} {s : Session β} {b : Bound}
    (h : s.bound values = .ok b) :
    (query sql values).run s =
      (runStatement sql b.values (fun rows => .rows rows.size)
        (Backend.query s.connection.settings.statementTimeout s.connection.settings.maxBlobBytes sql
          b.values)).run (s.report (s.connection.settings.binder.bind values).1) := by
  rw [query, run_bind_accepted h, Action.run_look_bind _ rfl, Action.run_look_bind _ rfl]
  rfl

/-- A statement gives the answer of the backend, unless its parameters are refused. -/
theorem answers_execute (sql : String) (values : List Value) (s : Session β) :
    Answers s values (s.executeAnswer sql) ((execute sql values).run s) := by
  rcases hbound : s.bound values with e | b
  · rw [execute, run_bind_refused hbound]
    exact .refused hbound rfl
  · obtain ⟨t, hrun, hconnection⟩ := run_runStatement sql b.values .affected
      (Backend.execute s.connection.settings.statementTimeout sql b.values)
      (s.report (s.connection.settings.binder.bind values).1)
    rw [run_execute_accepted sql hbound, hrun]
    exact .answered hbound hconnection

/-- A query gives the answer of the backend, unless its parameters are refused. -/
theorem answers_query (sql : String) (values : List Value) (s : Session β) :
    Answers s values (s.queryAnswer sql) ((query sql values).run s) := by
  rcases hbound : s.bound values with e | b
  · rw [query, run_bind_refused hbound]
    exact .refused hbound rfl
  · obtain ⟨t, hrun, hconnection⟩ := run_runStatement sql b.values (fun rows => .rows rows.size)
      (Backend.query s.connection.settings.statementTimeout s.connection.settings.maxBlobBytes sql
        b.values) (s.report (s.connection.settings.binder.bind values).1)
    rw [run_query_accepted sql hbound, hrun]
    exact .answered hbound hconnection

/-- The backend's answer to a statement that controls transactions. -/
def controlAnswer (s : Session β) (sql : String) : Except DbError Unit × β :=
  (Backend.control sql).run s.connection.backend

/-- A statement that controls transactions gives the answer of the backend. -/
theorem run_control (s : Session β) (sql : String) :
    ∃ t : Session β, (control sql).run s = ((s.controlAnswer sql).1, t) ∧
      t.connection = { s.connection with backend := (s.controlAnswer sql).2 } := by
  refine ⟨_, rfl, ?_⟩
  rw [connection_finish]
  rfl

/-- Inside a transaction no other one is opened, and nothing changes. -/
theorem run_begin_inside {s : Session β} (h : s.connection.inTransaction = true) :
    begin.run s =
      (.error (.validation "a transaction is already open on this connection"), s) :=
  Action.run_look_bind (fun s : Session β => s.connection.inTransaction) h

/-- Outside of a transaction one is opened by a BEGIN. -/
theorem run_begin_eq {s : Session β} (h : s.connection.inTransaction = false) :
    begin.run s =
      (control "BEGIN" >>= fun _ => Action.change (setInTransaction true)).run s :=
  Action.run_look_bind (fun s : Session β => s.connection.inTransaction) h

/-- Outside of a transaction one is opened exactly if BEGIN succeeds. -/
theorem run_begin_outside {s : Session β} (h : s.connection.inTransaction = false) :
    ∃ t : Session β, begin.run s = ((s.controlAnswer "BEGIN").1, t) ∧
      t.connection =
        { s.connection with
          backend := (s.controlAnswer "BEGIN").2
          inTransaction := (s.controlAnswer "BEGIN").1.isOk } := by
  obtain ⟨t, ht, hconnection⟩ := run_control s "BEGIN"
  rcases hx : (s.controlAnswer "BEGIN").1 with e | _
  · rw [hx] at ht
    refine ⟨t, (run_begin_eq h).trans (Action.run_bind_error ht), ?_⟩
    rw [hconnection]
    simp [h, Except.isOk, Except.toBool]
  · rw [hx] at ht
    refine ⟨_, (run_begin_eq h).trans (Action.run_bind_ok ht), ?_⟩
    show { t.connection with inTransaction := true } = _
    rw [hconnection]
    rfl

/-- A transaction stays open exactly if its COMMIT fails. -/
theorem run_commit (s : Session β) :
    ∃ t : Session β, commit.run s = ((s.controlAnswer "COMMIT").1, t) ∧
      t.connection =
        { s.connection with
          backend := (s.controlAnswer "COMMIT").2
          inTransaction := s.connection.inTransaction && !(s.controlAnswer "COMMIT").1.isOk } := by
  obtain ⟨t, ht, hconnection⟩ := run_control s "COMMIT"
  rcases hx : (s.controlAnswer "COMMIT").1 with e | _
  · rw [hx] at ht
    refine ⟨t, Action.run_bind_error ht, ?_⟩
    rw [hconnection]
    simp [Except.isOk, Except.toBool]
  · rw [hx] at ht
    refine ⟨_, Action.run_bind_ok ht, ?_⟩
    show { t.connection with inTransaction := false } = _
    rw [hconnection]
    simp [Except.isOk, Except.toBool]

/-- No transaction is open after a ROLLBACK, and one that fails lets the backend go. -/
theorem run_rollback (s : Session β) :
    ∃ t : Session β, rollback.run s = ((s.controlAnswer "ROLLBACK").1, t) ∧
      t.connection =
        { s.connection with
          backend :=
            if (s.controlAnswer "ROLLBACK").1.isOk then (s.controlAnswer "ROLLBACK").2
            else Backend.letGo (s.controlAnswer "ROLLBACK").2
          inTransaction := false } := by
  obtain ⟨t, ht, hconnection⟩ := run_control s "ROLLBACK"
  have hattempt : (control "ROLLBACK").attempt.run s = (.ok (s.controlAnswer "ROLLBACK").1, t) := by
    rw [Action.run_attempt, ht]
  rcases hx : (s.controlAnswer "ROLLBACK").1 with e | _
  · rw [hx] at hattempt
    refine ⟨_, Action.run_bind_ok hattempt, ?_⟩
    show { t.connection with
      backend := Backend.letGo t.connection.backend, inTransaction := false } = _
    rw [hconnection]
    rfl
  · rw [hx] at hattempt
    refine ⟨_, Action.run_bind_ok hattempt, ?_⟩
    show { t.connection with inTransaction := false } = _
    rw [hconnection]
    rfl

/-- An id that the backend was told is not asked for. -/
theorem run_lastInsertId_known {s : Session β} {id : UInt64}
    (h : Backend.generatedId s.connection.backend = some id) :
    lastInsertId.run s = (.ok id, s) :=
  Action.run_look_bind (fun s : Session β => Backend.generatedId s.connection.backend) h

/-- An id that the backend was not told is read from the answer to a query. -/
theorem run_lastInsertId_asked {s : Session β}
    (h : Backend.generatedId s.connection.backend = none) :
    lastInsertId.run s =
      (((query s.dialect.lastInsertIdQuery []).run s).1.bind idOf,
        ((query s.dialect.lastInsertIdQuery []).run s).2) := by
  refine (Action.run_look_bind
    (fun s : Session β => Backend.generatedId s.connection.backend) h).trans ?_
  rw [Action.run_look_bind _ rfl]
  rcases hx : (query s.dialect.lastInsertIdQuery []).run s with ⟨e | rows, t⟩
  · exact Action.run_bind_error hx
  · exact Action.run_bind_ok hx

end SqlAccess.Session
