import SqlAccess.Proofs.Connection.Calls
import SqlAccess.Proofs.Postgres.Dialogue
import SqlAccess.Script

/-!
# The flag of a connection and the server

What was said to a server tells whether a transaction is open there: a statement that was run opens
one, ends it, or does neither. As long as the link is held, the flag of a connection tells the same;
every call keeps it so, and so does any number of calls.
-/

namespace SqlAccess

/-- What the statements that control transactions do at a server: `some true` opens a transaction,
`some false` ends one. -/
structure ControlsTransactions (effect : String → Option Bool) : Prop where
  begin_eq : effect "BEGIN" = some true
  commit_eq : effect "COMMIT" = some false
  rollback_eq : effect "ROLLBACK" = some false
  idQuery_eq : effect Dialect.postgres.lastInsertIdQuery = none

/-- Whether a transaction is open at the server after one more exchange. -/
def openAfter (effect : String → Option Bool) (isOpen : Bool) (said : PgRequest × PgReply) : Bool :=
  if said.2.acknowledges then (said.1.statement?.bind effect).getD isOpen else isOpen

/-- Whether a transaction is open at the server after a dialogue that started with none. -/
def openAtServer (effect : String → Option Bool) (dialogue : List (PgRequest × PgReply)) : Bool :=
  dialogue.foldl (openAfter effect) false

namespace Call

/-- Does a call and forgets its result, but not its error. -/
def perform {σ : Type} [Executor σ] : Call → Action σ Unit
  | .execute sql values => Executor.execute sql values >>= fun _ => pure ()
  | .query sql values => Executor.query sql values >>= fun _ => pure ()
  | .lastInsertId => Executor.lastInsertId >>= fun _ => pure ()
  | .begin => Executor.begin
  | .commit => Executor.commit
  | .rollback => Executor.rollback

/-- The statement of a call that is given one does nothing to transactions. -/
def Harmless (effect : String → Option Bool) : Call → Prop
  | .execute sql _ => effect sql = none
  | .query sql _ => effect sql = none
  | _ => True

end Call

/-- Does calls one after another, whatever becomes of them. -/
def performAll {σ : Type} [Executor σ] (calls : List Call) (s : σ) : σ :=
  calls.foldl (fun s c => (c.perform.run s).2) s

variable {effect : String → Option Bool}

/-- Exchanges that change nothing one by one change nothing together. -/
theorem foldl_openAfter_eq {said : List (PgRequest × PgReply)} {isOpen : Bool}
    (h : ∀ x ∈ said, openAfter effect isOpen x = isOpen) :
    said.foldl (openAfter effect) isOpen = isOpen := by
  induction said with
  | nil => rfl
  | cons x said ih =>
    rw [List.foldl_cons, h x List.mem_cons_self]
    exact ih fun y hy => h y (List.mem_cons_of_mem x hy)

/-- What the server has not run changes nothing. -/
theorem openAfter_of_unacknowledged {x : PgRequest × PgReply} (h : x.2.acknowledges = false)
    (isOpen : Bool) : openAfter effect isOpen x = isOpen := by
  simp [openAfter, h]

/-- A statement that does nothing to transactions changes nothing, whether or not it is run. -/
theorem openAfter_of_isFor {x : PgRequest × PgReply} {sql : String} (h : PgLink.IsFor sql x.1)
    (hsql : effect sql = none) (isOpen : Bool) : openAfter effect isOpen x = isOpen := by
  rcases h with h | h
  · simp [openAfter, h]
  · simp [openAfter, h, hsql]

/-- A statement that was run does what it does. -/
theorem openAfter_of_acknowledged {sql : String} {reply : PgReply} {after : Bool}
    (h : reply.acknowledges = true) (hsql : effect sql = some after) (isOpen : Bool) :
    openAfter effect isOpen (.control sql, reply) = after := by
  simp [openAfter, h, PgRequest.statement?, hsql]

namespace Session

/-- Between two states of a session no other statement than the given one is run; the link is held
and a transaction is open as before. -/
def Quiet (sql : String) (s t : Session PgLink) : Prop :=
  ∃ sent, s.connection.backend.Sends sent t.connection.backend ∧
    (∀ q ∈ sent, PgLink.IsFor sql q) ∧
    t.connection.backend.isHeld = s.connection.backend.isHeld ∧
    t.connection.inTransaction = s.connection.inTransaction

/-- To a link a statement that ran out of time is at most asked to end. -/
theorem sends_afterStatement {α : Type} (r : Except DbError α) (l : PgLink) :
    ∃ more, l.Sends more (afterStatement (r, l)) ∧ (∀ q ∈ more, q = .cancel) ∧
      (afterStatement (r, l)).isHeld = l.isHeld := by
  have hsame : ∃ more, l.Sends more l ∧ (∀ q ∈ more, q = .cancel) ∧ l.isHeld = l.isHeld :=
    ⟨[], PgLink.sends_nil rfl rfl, by simp, rfl⟩
  rcases r with e | a
  · cases e with
    | timeout limit =>
      show ∃ more, l.Sends more l.cancel ∧ (∀ q ∈ more, q = .cancel) ∧ l.cancel.isHeld = l.isHeld
      by_cases hheld : l.isHeld = true
      · rw [PgLink.cancel, if_pos hheld]
        exact ⟨[.cancel], ⟨rfl, rfl⟩, by simp, rfl⟩
      · rw [PgLink.cancel, if_neg hheld]
        exact hsame
    | _ => exact hsame
  · exact hsame

/-- A statement leaves a connection held and open as it was, whatever becomes of it. -/
theorem quiet_of_answers {α : Type} {sql : String} {s : Session PgLink} {values : List Value}
    {act : Bound → Action PgLink α} {out : Except DbError α × Session PgLink}
    (h : Answers s values (fun b => (act b).run s.connection.backend) out)
    (hact : ∀ b, PgLink.Talks (PgLink.IsFor sql) (act b)) : Quiet sql s out.2 := by
  cases h with
  | refused hbound hsame =>
    refine ⟨[], PgLink.sends_nil ?_ ?_, by simp, ?_, ?_⟩ <;> rw [hsame]
  | @answered b t hbound hconnection =>
    obtain ⟨sent, hsends, hsent, hheld⟩ := hact b s.connection.backend
    obtain ⟨more, hmore, hcancel, hstill⟩ := sends_afterStatement
      ((act b).run s.connection.backend).1 ((act b).run s.connection.backend).2
    refine ⟨sent ++ more, ?_, fun q hq => ?_, ?_, by rw [hconnection]⟩
    · rw [hconnection]
      exact hsends.trans hmore
    · rcases List.mem_append.mp hq with hq | hq
      · exact hsent q hq
      · rw [hcancel q hq]
        exact .inl rfl
    · rw [hconnection]
      exact hstill.trans hheld

/-- A statement asks the server for nothing but itself. -/
theorem quiet_execute (sql : String) (values : List Value) (s : Session PgLink) :
    Quiet sql s ((execute sql values).run s).2 :=
  quiet_of_answers (answers_execute sql values s) fun b => PgLink.talks_execute _ sql b.values

/-- A query asks the server for nothing but itself. -/
theorem quiet_query (sql : String) (values : List Value) (s : Session PgLink) :
    Quiet sql s ((query sql values).run s).2 :=
  quiet_of_answers (answers_query sql values s) fun b => PgLink.talks_query _ _ sql b.values

/-- To ask for the last id asks the server for nothing but that. -/
theorem quiet_lastInsertId (s : Session PgLink) :
    Quiet Dialect.postgres.lastInsertIdQuery s (lastInsertId.run s).2 := by
  rw [run_lastInsertId_asked rfl]
  exact quiet_query _ [] s

/-- The flag of a connection says whether a transaction is open at the server, as long as the link
is held. -/
def Agrees (isOpen : Bool) (s : Session PgLink) : Prop :=
  s.connection.inTransaction = (s.connection.backend.isHeld && isOpen)

/-- A connection whose flag is right is kept if its link is held and no transaction is open. -/
theorem Agrees.giveBack_eq {s : Session PgLink} {isOpen : Bool} (h : Agrees isOpen s) :
    s.connection.giveBack.1 =
      if s.connection.backend.isHeld && !isOpen then some s.connection.backend else none := by
  have hgiven : s.connection.giveBack.1 =
      if s.connection.inTransaction then none
      else if s.connection.backend.isHeld then some s.connection.backend else none := by
    unfold Connection.giveBack
    split
    · rfl
    · exact apply_ite Prod.fst _ _ _
  rw [hgiven, h]
  cases s.connection.backend.isHeld <;> cases isOpen <;> rfl

/-- What is said between two states, and the flag after it. -/
def Follows (effect : String → Option Bool) (isOpen : Bool) (s t : Session PgLink) : Prop :=
  ∃ sent, s.connection.backend.Sends sent t.connection.backend ∧
    Agrees ((s.connection.backend.heard sent).foldl (openAfter effect) isOpen) t

/-- Statements that do nothing to transactions keep the flag right. -/
theorem Quiet.follows {sql : String} {s t : Session PgLink} {isOpen : Bool} (h : Quiet sql s t)
    (hsql : effect sql = none) (hagrees : Agrees isOpen s) : Follows effect isOpen s t := by
  obtain ⟨sent, hsends, hsent, hheld, hflag⟩ := h
  refine ⟨sent, hsends, ?_⟩
  have hsame : (s.connection.backend.heard sent).foldl (openAfter effect) isOpen = isOpen := by
    refine foldl_openAfter_eq fun x hx => openAfter_of_isFor (hsent x.1 ?_) hsql isOpen
    exact (List.mem_filter.mp (List.of_mem_zip hx).1).1
  rw [hsame, Agrees, hflag, hheld]
  exact hagrees

/-- What a statement that controls transactions leaves open at the server. -/
theorem foldl_openAfter_control {l l' : PgLink} {sql : String} {sent : List PgRequest}
    {r : Except DbError Unit} (h : PgLink.Controlled sql l sent r l') {after : Bool}
    (hsql : effect sql = some after) (isOpen : Bool) :
    (l.heard sent).foldl (openAfter effect) isOpen = if r.isOk then after else isOpen := by
  by_cases hok : r.isOk = true
  · obtain ⟨-, reply, hheard, hreply⟩ := h.success hok
    rw [if_pos hok, hheard]
    exact openAfter_of_acknowledged hreply hsql isOpen
  · rw [if_neg hok]
    have hfailed : r.isOk = false := by simpa using hok
    exact foldl_openAfter_eq fun x hx => openAfter_of_unacknowledged (h.failure hfailed x hx) isOpen

/-- What a statement that controls transactions comes to on the link of a session. -/
theorem controlled (sql : String) (s : Session PgLink) :
    ∃ sent, PgLink.Controlled sql s.connection.backend sent (s.controlAnswer sql).1
      (s.controlAnswer sql).2 := PgLink.run_control sql s.connection.backend

/-- A BEGIN keeps the flag right. -/
theorem follows_begin (heffect : ControlsTransactions effect) {s : Session PgLink} {isOpen : Bool}
    (hagrees : Agrees isOpen s) : Follows effect isOpen s (begin.run s).2 := by
  by_cases hinside : s.connection.inTransaction = true
  · rw [run_begin_inside hinside]
    exact ⟨[], PgLink.sends_nil rfl rfl, hagrees⟩
  · have houtside : s.connection.inTransaction = false := by simpa using hinside
    obtain ⟨t, hrun, hconnection⟩ := run_begin_outside houtside
    obtain ⟨sent, hcontrol⟩ := controlled "BEGIN" s
    rw [hrun]
    refine ⟨sent, hconnection ▸ hcontrol.sends, ?_⟩
    rw [foldl_openAfter_control hcontrol heffect.begin_eq, Agrees, hconnection, hcontrol.isHeld_eq]
    rcases hanswer : (s.controlAnswer "BEGIN").1.isOk with _ | _
    · exact houtside.symm.trans hagrees
    · obtain ⟨hheld, -⟩ := hcontrol.success hanswer
      rw [hheld]
      rfl

/-- A COMMIT keeps the flag right, and so does one that fails. -/
theorem follows_commit (heffect : ControlsTransactions effect) {s : Session PgLink} {isOpen : Bool}
    (hagrees : Agrees isOpen s) : Follows effect isOpen s (commit.run s).2 := by
  obtain ⟨t, hrun, hconnection⟩ := run_commit s
  obtain ⟨sent, hcontrol⟩ := controlled "COMMIT" s
  rw [hrun]
  refine ⟨sent, hconnection ▸ hcontrol.sends, ?_⟩
  rw [foldl_openAfter_control hcontrol heffect.commit_eq, Agrees, hconnection, hcontrol.isHeld_eq]
  rcases hanswer : (s.controlAnswer "COMMIT").1.isOk with _ | _
  · rw [Bool.not_false, Bool.and_true]
    exact hagrees
  · simp

/-- After a ROLLBACK the flag is right, whatever it was before. -/
theorem follows_rollback (heffect : ControlsTransactions effect) {s : Session PgLink}
    (isOpen : Bool) : Follows effect isOpen s (rollback.run s).2 := by
  obtain ⟨t, hrun, hconnection⟩ := run_rollback s
  obtain ⟨sent, hcontrol⟩ := controlled "ROLLBACK" s
  rw [hrun]
  refine ⟨sent, ?_, ?_⟩
  · rw [hconnection]
    rcases (s.controlAnswer "ROLLBACK").1.isOk
    · exact hcontrol.sends.letGo
    · exact hcontrol.sends
  · rw [foldl_openAfter_control hcontrol heffect.rollback_eq, Agrees, hconnection]
    rcases (s.controlAnswer "ROLLBACK").1.isOk
    · rfl
    · simp

/-- Every call keeps the flag right. -/
theorem follows_perform (heffect : ControlsTransactions effect) {c : Call} (hc : c.Harmless effect)
    {s : Session PgLink} {isOpen : Bool} (hagrees : Agrees isOpen s) :
    Follows effect isOpen s (c.perform.run s).2 := by
  cases c with
  | execute sql values =>
    rw [Call.perform, Action.run_forget]
    exact (quiet_execute sql values s).follows hc hagrees
  | query sql values =>
    rw [Call.perform, Action.run_forget]
    exact (quiet_query sql values s).follows hc hagrees
  | lastInsertId =>
    rw [Call.perform, Action.run_forget]
    exact (quiet_lastInsertId s).follows heffect.idQuery_eq hagrees
  | begin => exact follows_begin heffect hagrees
  | commit => exact follows_commit heffect hagrees
  | rollback => exact follows_rollback heffect isOpen

/-- Calls one after another keep the flag right. -/
theorem follows_performAll (heffect : ControlsTransactions effect) {calls : List Call}
    (hcalls : ∀ c ∈ calls, c.Harmless effect) {s : Session PgLink} {isOpen : Bool}
    (hagrees : Agrees isOpen s) : Follows effect isOpen s (performAll calls s) := by
  induction calls generalizing s isOpen with
  | nil => exact ⟨[], PgLink.sends_nil rfl rfl, hagrees⟩
  | cons c calls ih =>
    obtain ⟨sent, hsends, hnext⟩ := follows_perform heffect (hcalls c List.mem_cons_self) hagrees
    obtain ⟨more, hmore, hlast⟩ := ih (fun d hd => hcalls d (List.mem_cons_of_mem c hd)) hnext
    refine ⟨sent ++ more, hsends.trans hmore, ?_⟩
    rw [hsends.heard_append, List.foldl_append]
    exact hlast

end Session

end SqlAccess
