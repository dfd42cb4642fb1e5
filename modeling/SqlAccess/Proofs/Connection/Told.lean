import SqlAccess.Proofs.Connection.Agreement
import SqlAccess.Proofs.Connection.Sent
import SqlAccess.Proofs.Monitor.Statistics

/-!
# What monitors are told about calls

Every statement that is handed to a backend is told about once, with its outcome: one with
parameters or rows is announced and its end follows at once, one that controls transactions is not
announced. What is refused before is not told. Each notice names the dialect of the session as the
call finds it. So over any number of calls the notices come in pairs exactly if no statement that
controls transactions was among those that were sent.
-/

namespace SqlAccess

namespace Sent

/-- The text of a statement. -/
def sql : Sent → String
  | .control sql _ => sql
  | .execute sql _ _ => sql
  | .query sql _ _ => sql

/-- The number of the parameters of a statement. -/
def parameterCount : Sent → Nat
  | .control _ _ => 0
  | .execute _ values _ => values.length
  | .query _ values _ => values.length

/-- What the answer to a statement is told as. -/
def outcome : Sent → Outcome
  | .control _ answer => Session.outcomeOf (fun _ => .affected 0) answer
  | .execute _ _ answer => Session.outcomeOf .affected answer
  | .query _ _ answer => Session.outcomeOf (fun rows => .rows rows.size) answer

/-- The context in which a statement to a server is told about. -/
def context (x : Sent) (server : String) : StatementContext :=
  .ofSql x.sql x.parameterCount server

end Sent

/-- What is told about what is sent for a call to a server: a statement is told to have ended, and
one that does not control transactions is announced right before. Where nothing is sent nothing is
told. -/
inductive Reports (server : String) : List Sent → List Notice → Prop
  | nothing : Reports server [] []
  | announced {x : Sent} (elapsed : Calendar.Duration) (hx : x.isControl = false) :
    Reports server [x]
      [.started (x.context server), .finished (x.context server) elapsed x.outcome]
  | unannounced {x : Sent} (elapsed : Calendar.Duration) (hx : x.isControl = true) :
    Reports server [x] [.finished (x.context server) elapsed x.outcome]

/-- Notices in pairs: a statement is announced, and the next notice is that the same one has ended.
-/
inductive Paired : List Notice → Prop
  | nil : Paired []
  | pair {told : List Notice} (c : StatementContext) (elapsed : Calendar.Duration) (o : Outcome)
    (h : Paired told) : Paired (.started c :: .finished c elapsed o :: told)

/-- Together with what is told about a call, notices are in pairs exactly if those that follow are
and nothing sent for the call controls transactions. -/
theorem Reports.paired_append_iff {server : String} {sent : List Sent} {told rest : List Notice}
    (h : Reports server sent told) :
    Paired (told ++ rest) ↔ (∀ x ∈ sent, x.isControl = false) ∧ Paired rest := by
  cases h with
  | nothing => simp
  | announced elapsed hx =>
    simp only [List.forall_mem_singleton, hx, true_and]
    constructor
    · intro hpaired
      cases hpaired with
      | pair c elapsed o hrest => exact hrest
    · exact .pair _ _ _
  | unannounced elapsed hx =>
    simp only [List.forall_mem_singleton, hx, Bool.true_eq_false, false_and, iff_false]
    intro hpaired
    cases hpaired

/-- Whatever is told to have ended is told with the outcome of a statement that was sent. -/
theorem Reports.exists_outcome_eq {server : String} {sent : List Sent} {told : List Notice}
    (h : Reports server sent told) {c : StatementContext} {elapsed : Calendar.Duration}
    {o : Outcome} (hfinished : .finished c elapsed o ∈ told) : ∃ x ∈ sent, x.outcome = o := by
  cases h with
  | nothing => cases hfinished
  | @announced x _ _ =>
    simp only [List.mem_cons, reduceCtorEq, Notice.finished.injEq, List.not_mem_nil, or_false,
      false_or] at hfinished
    exact ⟨x, List.mem_singleton_self x, hfinished.2.2.symm⟩
  | @unannounced x _ _ =>
    rw [List.mem_singleton, Notice.finished.injEq] at hfinished
    exact ⟨x, List.mem_singleton_self x, hfinished.2.2.symm⟩

/-- An outcome is an error exactly if the answer is one. -/
theorem isError_outcomeOf {α : Type} {describe : α → Outcome}
    (hdescribe : ∀ a, (describe a).isError = false) (r : Except DbError α) :
    (Session.outcomeOf describe r).isError = !r.isOk := by
  rcases r with e | a
  · cases e <;> rfl
  · exact hdescribe a

namespace Monitor

/-- Hearing several things and then more is hearing all of them. -/
theorem hear_append (m : Monitor) (told more : List Notice) :
    m.hear (told ++ more) = (m.hear told).hear more := List.foldl_append

/-- A recorder keeps all that it hears. -/
theorem hear_recorder (kept told : List Notice) :
    (Monitor.recorder kept).hear told = .recorder (kept ++ told) := by
  induction told generalizing kept with
  | nil => rw [List.append_nil]; rfl
  | cons n told ih =>
    rw [hear, List.foldl_cons, ← hear]
    exact (ih _).trans (by rw [List.append_assoc]; rfl)

end Monitor

namespace Session

variable {α β : Type}

/-- Parameters that are not accepted are not told about. -/
private theorem monitor_of_refused {values : List Value} {work : List Value → Action (Session β) α}
    {s t : Session β} {e : DbError} {r : Except DbError α} (hbound : s.bound values = .error e)
    (hrun : (Session.bind values >>= work).run s = (r, t)) : t.monitor = s.monitor := by
  rw [run_bind_refused hbound] at hrun
  exact congrArg (monitor ∘ Prod.snd) hrun.symm

/-- Noting whether a transaction is open tells nobody. -/
private theorem monitor_setInTransaction (a : Action (Session β) Unit) (isOpen : Bool)
    (s : Session β) : ((a >>= fun _ => Action.change (setInTransaction isOpen)).run s).2.monitor =
      (a.run s).2.monitor := by
  rcases ha : a.run s with ⟨e | _, t⟩
  · rw [Action.run_bind_error ha]
  · rw [Action.run_bind_ok ha]
    rfl

variable [Backend β]

/-- At the end of a statement the monitor is told once. -/
theorem monitor_finish (c : StatementContext) (o : Outcome) (s : Session β) :
    (s.finish c o).monitor =
      s.monitor.hear [.finished c (Backend.elapsed s.connection.backend) o] := by
  unfold finish
  dsimp only
  split <;> rfl

/-- Giving up a statement tells nobody. -/
private theorem monitor_cancelTimeout (r : Except DbError α) (s : Session β) :
    (cancelTimeout r s).monitor = s.monitor := by
  rcases r with e | a
  · cases e <;> rfl
  · rfl

/-- A statement is announced, and then it is told how it ended. -/
theorem monitor_runStatement (sql : String) (values : List Value) (describe : α → Outcome)
    (a : Action β α) (s : Session β) :
    ∃ elapsed, ((runStatement sql values describe a).run s).2.monitor =
      s.monitor.hear [.started (s.context sql values.length),
        .finished (s.context sql values.length) elapsed
          (outcomeOf describe ((runStatement sql values describe a).run s).1)] := by
  have hfinish := monitor_finish (s.context sql values.length)
    (outcomeOf describe (a.run s.connection.backend).1)
    (cancelTimeout (a.run s.connection.backend).1
      ((onBackend a).run (s.tell (.started (s.context sql values.length)))).2)
  rw [monitor_cancelTimeout] at hfinish
  exact ⟨_, hfinish⟩

/-- A statement that controls transactions is only told to have ended. -/
theorem monitor_control (sql : String) (s : Session β) :
    ∃ elapsed, ((control sql).run s).2.monitor =
      s.monitor.hear [.finished (s.context sql 0) elapsed
        (outcomeOf (fun _ => .affected 0) (s.controlAnswer sql).1)] :=
  ⟨_, monitor_finish _ _ _⟩

/-- Outside of a transaction BEGIN is told about like any statement that controls transactions. -/
theorem monitor_begin {s : Session β} (h : s.connection.inTransaction = false) :
    (begin.run s).2.monitor = ((control "BEGIN").run s).2.monitor := by
  rw [run_begin_eq h, monitor_setInTransaction]

/-- COMMIT is told about like any statement that controls transactions. -/
theorem monitor_commit (s : Session β) :
    (commit.run s).2.monitor = ((control "COMMIT").run s).2.monitor :=
  monitor_setInTransaction (control "COMMIT") false s

/-- Whether or not a rollback fails, only its statement is told about. -/
theorem monitor_rollback (s : Session β) :
    (rollback.run s).2.monitor = ((control "ROLLBACK").run s).2.monitor := by
  unfold rollback
  rw [Action.run_bind_ok (Action.run_attempt _ s)]
  rcases ((control "ROLLBACK").run s).1 with e | _ <;> rfl

end Session

/-! ## Statements and notices together -/

namespace Session

variable {β : Type} [Backend β]

/-- What is sent for a call on a session leads to a later state, and is told about. -/
structure Accounts (s : Session (Recorded β Sent)) (sent : List Sent) (told : List Notice)
    (t : Session (Recorded β Sent)) : Prop where
  sends : s.Sends sent t
  monitor_eq : t.monitor = s.monitor.hear told
  reports : Reports s.dialect.name sent told

/-- Nothing is told when nothing is sent. -/
theorem accounts_nil {s t : Session (Recorded β Sent)} (hsends : s.Sends [] t)
    (hmonitor : t.monitor = s.monitor) : s.Accounts [] [] t := ⟨hsends, hmonitor, .nothing⟩

/-- What is sent for a call, and what the call comes to. -/
inductive Carries (s : Session (Recorded β Sent)) : Call → List Sent → Except DbError Unit → Prop
  | execute {sql : String} {values : List Value} {sent : List Sent} {r : Except DbError UInt64}
    (h : Executes s.connection.settings.binder sql values sent r) :
    Carries s (.execute sql values) sent (r.map fun _ => ())
  | query {sql : String} {values : List Value} {sent : List Sent} {r : Except DbError RecordSet}
    (h : Queries s.connection.settings.binder sql values sent r) :
    Carries s (.query sql values) sent (r.map fun _ => ())
  | lastInsertId {sent : List Sent} {r : Except DbError UInt64} (h : Identifies s sent r) :
    Carries s .lastInsertId sent (r.map fun _ => ())
  | beginInside (h : s.connection.inTransaction = true) :
    Carries s .begin []
      (.error (.validation "a transaction is already open on this connection"))
  | beginOutside (h : s.connection.inTransaction = false) (answer : Except DbError Unit) :
    Carries s .begin [.control "BEGIN" answer] answer
  | commit (answer : Except DbError Unit) : Carries s .commit [.control "COMMIT" answer] answer
  | rollback (answer : Except DbError Unit) :
    Carries s .rollback [.control "ROLLBACK" answer] answer

/-- A statement is told about as it is sent. -/
theorem accounts_execute (sql : String) (values : List Value) (s : Session (Recorded β Sent)) :
    ∃ sent told, Executes s.connection.settings.binder sql values sent
        ((execute sql values).run s).1 ∧
      s.Accounts sent told ((execute sql values).run s).2 := by
  obtain ⟨sent, hdoes, hsends, -⟩ := does_execute sql values s
  rcases hrun : (execute sql values).run s with ⟨r, t⟩
  rw [hrun] at hdoes hsends
  cases hdoes with
  | refused h => exact ⟨[], [], .refused h, accounts_nil hsends (monitor_of_refused h hrun)⟩
  | @sent b h =>
    obtain ⟨elapsed, hmonitor⟩ := monitor_runStatement sql b.values .affected
      (Backend.execute s.connection.settings.statementTimeout sql b.values)
      (s.report (s.connection.settings.binder.bind values).1)
    rw [← run_execute_accepted sql h, hrun] at hmonitor
    exact ⟨_, _, .sent h r, hsends, hmonitor, .announced elapsed rfl⟩

/-- A query is told about as it is sent. -/
theorem accounts_query (sql : String) (values : List Value) (s : Session (Recorded β Sent)) :
    ∃ sent told, Queries s.connection.settings.binder sql values sent
        ((query sql values).run s).1 ∧
      s.Accounts sent told ((query sql values).run s).2 := by
  obtain ⟨sent, hdoes, hsends, -⟩ := does_query sql values s
  rcases hrun : (query sql values).run s with ⟨r, t⟩
  rw [hrun] at hdoes hsends
  cases hdoes with
  | refused h => exact ⟨[], [], .refused h, accounts_nil hsends (monitor_of_refused h hrun)⟩
  | @sent b h =>
    obtain ⟨elapsed, hmonitor⟩ := monitor_runStatement sql b.values (fun rows => .rows rows.size)
      (Backend.query s.connection.settings.statementTimeout s.connection.settings.maxBlobBytes sql
        b.values) (s.report (s.connection.settings.binder.bind values).1)
    rw [← run_query_accepted sql h, hrun] at hmonitor
    exact ⟨_, _, .sent h r, hsends, hmonitor, .announced elapsed rfl⟩

/-- What is asked for a generated id, and what is told about it. -/
theorem accounts_lastInsertId (s : Session (Recorded β Sent)) :
    ∃ sent told, Identifies s sent (lastInsertId.run s).1 ∧
      s.Accounts sent told (lastInsertId.run s).2 := by
  rcases hid : Backend.generatedId s.connection.backend with _ | id
  · obtain ⟨sent, told, hqueries, haccounts⟩ := accounts_query s.dialect.lastInsertIdQuery [] s
    rw [run_lastInsertId_asked hid]
    refine ⟨sent, told, ?_, haccounts⟩
    generalize ((query s.dialect.lastInsertIdQuery []).run s).1 = r at hqueries
    cases hqueries with
    | refused h => exact absurd (h.symm.trans (bound_nil s)) nofun
    | sent h _ =>
      obtain rfl := Except.ok.inj (h.symm.trans (bound_nil s))
      exact .asked hid r
  · rw [run_lastInsertId_known hid]
    exact ⟨[], [], .known hid, accounts_nil (sends_nil s) rfl⟩

/-- A statement that controls transactions is told about once it has ended. -/
theorem accounts_control {sql : String} {s t : Session (Recorded β Sent)}
    (hsends : s.Sends [.control sql (s.controlAnswer sql).1] t)
    (hmonitor : t.monitor = ((control sql).run s).2.monitor) :
    ∃ told, s.Accounts [.control sql (s.controlAnswer sql).1] told t := by
  obtain ⟨elapsed, htold⟩ := monitor_control sql s
  exact ⟨_, hsends, hmonitor.trans htold, .unannounced elapsed rfl⟩

/-- A BEGIN is told about as it is sent; inside a transaction there is nothing to tell. -/
theorem accounts_begin (s : Session (Recorded β Sent)) :
    ∃ sent told, Carries s .begin sent (begin.run s).1 ∧
      s.Accounts sent told (begin.run s).2 := by
  by_cases hinside : s.connection.inTransaction = true
  · rw [run_begin_inside hinside]
    exact ⟨[], [], .beginInside hinside, accounts_nil (sends_nil s) rfl⟩
  · have houtside : s.connection.inTransaction = false := by simpa using hinside
    have hmonitor := monitor_begin houtside
    obtain ⟨t, hrun, hconnection⟩ := run_begin_outside houtside
    rw [hrun] at hmonitor ⊢
    obtain ⟨told, haccounts⟩ := accounts_control (sends_of_connection hconnection rfl) hmonitor
    exact ⟨_, told, .beginOutside houtside _, haccounts⟩

/-- A COMMIT is told about as it is sent. -/
theorem accounts_commit (s : Session (Recorded β Sent)) :
    ∃ sent told, Carries s .commit sent (commit.run s).1 ∧
      s.Accounts sent told (commit.run s).2 := by
  have hmonitor := monitor_commit s
  obtain ⟨t, hrun, hconnection⟩ := run_commit s
  rw [hrun] at hmonitor ⊢
  obtain ⟨told, haccounts⟩ := accounts_control (sends_of_connection hconnection rfl) hmonitor
  exact ⟨_, told, .commit _, haccounts⟩

/-- A ROLLBACK is told about as it is sent. -/
theorem accounts_rollback (s : Session (Recorded β Sent)) :
    ∃ sent told, Carries s .rollback sent (rollback.run s).1 ∧
      s.Accounts sent told (rollback.run s).2 := by
  have hmonitor := monitor_rollback s
  obtain ⟨t, hrun, hconnection⟩ := run_rollback s
  rw [hrun] at hmonitor ⊢
  have hsends : s.Sends [.control "ROLLBACK" (s.controlAnswer "ROLLBACK").1] t := by
    refine sends_of_connection hconnection ?_
    split <;> rfl
  obtain ⟨told, haccounts⟩ := accounts_control hsends hmonitor
  exact ⟨_, told, .rollback _, haccounts⟩

/-- What is sent for a call is told about, and it decides what the call comes to. -/
theorem accounts_perform (call : Call) (s : Session (Recorded β Sent)) :
    ∃ sent told, Carries s call sent (call.perform.run s).1 ∧
      s.Accounts sent told (call.perform.run s).2 := by
  cases call with
  | execute sql values =>
    obtain ⟨sent, told, hexecutes, haccounts⟩ := accounts_execute sql values s
    rw [Call.perform, Action.run_forget]
    exact ⟨sent, told, .execute hexecutes, haccounts⟩
  | query sql values =>
    obtain ⟨sent, told, hqueries, haccounts⟩ := accounts_query sql values s
    rw [Call.perform, Action.run_forget]
    exact ⟨sent, told, .query hqueries, haccounts⟩
  | lastInsertId =>
    obtain ⟨sent, told, hidentifies, haccounts⟩ := accounts_lastInsertId s
    rw [Call.perform, Action.run_forget]
    exact ⟨sent, told, .lastInsertId hidentifies, haccounts⟩
  | begin => exact accounts_begin s
  | commit => exact accounts_commit s
  | rollback => exact accounts_rollback s

/-- What is sent for calls, one after another, and what is told about it. Each call is told about
with the dialect of the session that the calls before it have left. -/
inductive Recounts : Session (Recorded β Sent) → List Call → List Sent → List Notice → Prop
  | nil (s : Session (Recorded β Sent)) : Recounts s [] [] []
  | cons {s : Session (Recorded β Sent)} {call : Call} {calls : List Call} {sent more : List Sent}
    {told rest : List Notice} (hcarries : Carries s call sent (call.perform.run s).1)
    (hreports : Reports s.dialect.name sent told)
    (h : Recounts (call.perform.run s).2 calls more rest) :
    Recounts s (call :: calls) (sent ++ more) (told ++ rest)

/-- The notices about calls are in pairs exactly if nothing that was sent controls transactions. -/
theorem Recounts.paired_iff {s : Session (Recorded β Sent)} {calls : List Call} {sent : List Sent}
    {told : List Notice} (h : Recounts s calls sent told) :
    Paired told ↔ ∀ x ∈ sent, x.isControl = false := by
  induction h with
  | nil => exact ⟨fun _ => List.forall_mem_nil _, fun _ => .nil⟩
  | cons _ hreports _ ih => rw [hreports.paired_append_iff, ih, List.forall_mem_append]

/-- What is sent for calls is told about, from one call to the next. -/
theorem recounts_performAll (calls : List Call) (s : Session (Recorded β Sent)) :
    ∃ sent told, s.Sends sent (performAll calls s) ∧
      (performAll calls s).monitor = s.monitor.hear told ∧ Recounts s calls sent told := by
  induction calls generalizing s with
  | nil => exact ⟨[], [], sends_nil s, rfl, .nil s⟩
  | cons call calls ih =>
    obtain ⟨sent, told, hcarries, haccounts⟩ := accounts_perform call s
    obtain ⟨more, rest, hsends, hmonitor, hrecounts⟩ := ih (call.perform.run s).2
    refine ⟨sent ++ more, told ++ rest, haccounts.sends.trans hsends, hmonitor.trans ?_,
      .cons hcarries haccounts.reports hrecounts⟩
    rw [haccounts.monitor_eq, Monitor.hear_append]

/-- The statement of a call fails exactly if the call does, unless the call still has to read a
generated id from the answer. -/
theorem Carries.isError_outcome {s : Session (Recorded β Sent)} {call : Call} {sent : List Sent}
    {r : Except DbError Unit} (h : Carries s call sent r) (hcall : call ≠ .lastInsertId) {x : Sent}
    (hx : x ∈ sent) : x.outcome.isError = !r.isOk := by
  cases h with
  | @execute sql values sent answer h =>
    cases h with
    | refused => cases hx
    | sent =>
      obtain rfl := List.mem_singleton.mp hx
      refine (isError_outcomeOf (fun _ => rfl) answer).trans ?_
      cases answer <;> rfl
  | @query sql values sent answer h =>
    cases h with
    | refused => cases hx
    | sent =>
      obtain rfl := List.mem_singleton.mp hx
      refine (isError_outcomeOf (fun _ => rfl) answer).trans ?_
      cases answer <;> rfl
  | lastInsertId => exact absurd rfl hcall
  | beginInside => cases hx
  | beginOutside | commit | rollback =>
    obtain rfl := List.mem_singleton.mp hx
    exact isError_outcomeOf (fun _ => rfl) r

/-- A call whose statement fails fails. -/
theorem Carries.isOk_eq_false {s : Session (Recorded β Sent)} {call : Call} {sent : List Sent}
    {r : Except DbError Unit} (h : Carries s call sent r) {x : Sent} (hx : x ∈ sent)
    (herror : x.outcome.isError = true) : r.isOk = false := by
  by_cases hcall : call = .lastInsertId
  · subst hcall
    cases h with
    | lastInsertId hidentifies =>
      cases hidentifies with
      | known => cases hx
      | asked _ answer =>
        obtain rfl := List.mem_singleton.mp hx
        cases answer with
        | error e => rfl
        | ok rows => cases herror
  · have hisError := h.isError_outcome hcall hx
    rw [herror] at hisError
    simpa using hisError.symm

/-- A connection whose monitor keeps what it is told. -/
def watched {β : Type} (c : Connection β) : Session β where
  connection := c
  monitor := .recorder []

/-- What one more call adds to what was sent and to what a monitor was told. -/
structure Adds (s : Session (Recorded β Sent)) (call : Call) (sent : List Sent)
    (told : List Notice) : Prop where
  log_eq : (call.perform.run s).2.log = s.log ++ sent
  notices_eq : (call.perform.run s).2.monitor.notices = s.monitor.notices ++ told
  /-- Nothing is sent for a call that is refused before, and else one statement, which decides. -/
  carries : Carries s call sent (call.perform.run s).1
  reports : Reports s.dialect.name sent told
  told_eq_nil : sent = [] → told = []
  /-- A call fails if its statement is told to have failed. -/
  fails_of_isError : ∀ c elapsed o, .finished c elapsed o ∈ told → o.isError = true →
    (call.perform.run s).1.isOk = false
  /-- It fails only then, unless it still had to read a generated id from the answer. -/
  isError_eq : call ≠ .lastInsertId → ∀ c elapsed o, .finished c elapsed o ∈ told →
    o.isError = !(call.perform.run s).1.isOk

/-- A monitor that keeps what it is told keeps what is told about calls. -/
private theorem exists_monitor_performAll (c : Connection (Recorded β Sent)) (calls : List Call) :
    ∃ sent told, (performAll calls (watched c)).log = c.backend.log ++ sent ∧
      (performAll calls (watched c)).monitor = .recorder told ∧
      Recounts (watched c) calls sent told := by
  obtain ⟨sent, told, hsends, hmonitor, hrecounts⟩ := recounts_performAll calls (watched c)
  exact ⟨sent, told, hsends.log_eq, hmonitor.trans (Monitor.hear_recorder [] _), hrecounts⟩

/-- One more call is told about, too. -/
theorem exists_adds (call : Call) {s : Session (Recorded β Sent)} {kept : List Notice}
    (hkept : s.monitor = .recorder kept) : ∃ sent told, Adds s call sent told := by
  obtain ⟨sent, told, hcarries, haccounts⟩ := accounts_perform call s
  have hmonitor := haccounts.monitor_eq
  rw [hkept, Monitor.hear_recorder] at hmonitor
  exact ⟨sent, told, {
    log_eq := haccounts.sends.log_eq
    notices_eq := by rw [hmonitor, hkept]; rfl
    carries := hcarries
    reports := haccounts.reports
    told_eq_nil := by
      rintro rfl
      cases haccounts.reports
      rfl
    fails_of_isError := by
      intro c elapsed o hfinished
      obtain ⟨x, hx, rfl⟩ := haccounts.reports.exists_outcome_eq hfinished
      exact hcarries.isOk_eq_false hx
    isError_eq := by
      intro hcall c elapsed o hfinished
      obtain ⟨x, hx, rfl⟩ := haccounts.reports.exists_outcome_eq hfinished
      exact hcarries.isError_outcome hcall hx }⟩

/-- Over any calls on a connection a monitor is told once about every statement that is handed to
the backend, with the dialect of the connection at that call, and the notices are in pairs exactly
if no statement that controls transactions was among them. One more call adds what is told about its
statement, and nothing if it is refused. -/
theorem statements_are_told (c : Connection (Recorded β Sent)) (calls : List Call) :
    (∃ sent, (performAll calls (watched c)).log = c.backend.log ++ sent ∧
      Recounts (watched c) calls sent (performAll calls (watched c)).monitor.notices ∧
      (Paired (performAll calls (watched c)).monitor.notices ↔
        ∀ x ∈ sent, x.isControl = false)) ∧
    ∀ call : Call, ∃ sent told, Adds (performAll calls (watched c)) call sent told := by
  obtain ⟨sent, told, hlog, hmonitor, hrecounts⟩ := exists_monitor_performAll c calls
  refine ⟨⟨sent, hlog, ?_, ?_⟩, fun call => exists_adds call hmonitor⟩
  · rw [hmonitor]
    exact hrecounts
  · rw [hmonitor]
    exact hrecounts.paired_iff

/-- A connection whose server accepts one statement, with a log of what is sent. -/
def acceptsOne : Connection (Recorded PgLink Sent) where
  settings := {}
  backend := ⟨{ replies := [(0, .completed 0)] }, []⟩

/-- A BEGIN that succeeds is sent, and told to have ended, but it was not announced. -/
theorem begin_is_not_announced :
    (performAll [.begin] (watched acceptsOne)).log = [.control "BEGIN" (.ok ())] ∧
    (performAll [.begin] (watched acceptsOne)).monitor.notices =
      [.finished (.ofSql "BEGIN" 0 "PostgreSQL") (.ofNanos 0) (.affected 0)] ∧
    ¬Paired (performAll [.begin] (watched acceptsOne)).monitor.notices := by
  have hnotices : (performAll [.begin] (watched acceptsOne)).monitor.notices =
      [.finished (.ofSql "BEGIN" 0 "PostgreSQL") (.ofNanos 0) (.affected 0)] := rfl
  refine ⟨rfl, hnotices, ?_⟩
  rw [hnotices]
  intro hpaired
  cases hpaired

end Session

end SqlAccess
