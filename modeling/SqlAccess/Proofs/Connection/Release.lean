import SqlAccess.Proofs.Connection.Agreement

/-!
# Connections come back outside of transactions

A connection that is given back is kept for others exactly if its link is held and no transaction is
open at the server. Inside a transaction no BEGIN is sent. After a rollback that failed, the link is
gone: whatever is called on it fails, and nothing is sent.
-/

namespace SqlAccess

namespace Session

variable {effect : String → Option Bool}

/-- Requests for another statement than BEGIN are no BEGIN. -/
theorem no_begin_of_isFor {l l' : PgLink} {sent : List PgRequest} {sql : String}
    (hsends : l.Sends sent l') (hsent : ∀ q ∈ sent, PgLink.IsFor sql q) (hne : sql ≠ "BEGIN") :
    ∀ q ∈ l.since l', q.statement? ≠ some "BEGIN" := by
  rw [hsends.since_eq]
  intro q hq
  rcases hsent q hq with h | h
  · rw [h]
    nofun
  · rw [h]
    exact fun heq => hne (Option.some.inj heq)

/-- What is sent for a statement other than BEGIN holds no BEGIN. -/
theorem Quiet.no_begin {sql : String} {s t : Session PgLink} (h : Quiet sql s t)
    (hne : sql ≠ "BEGIN") :
    ∀ q ∈ s.connection.backend.since t.connection.backend, q.statement? ≠ some "BEGIN" := by
  obtain ⟨sent, hsends, hsent, -⟩ := h
  exact no_begin_of_isFor hsends hsent hne

/-- Inside a transaction no call sends a BEGIN. -/
theorem no_begin_inside (heffect : ControlsTransactions effect) {c : Call} (hc : c.Harmless effect)
    {s : Session PgLink} (hinside : s.connection.inTransaction = true) :
    ∀ q ∈ s.connection.backend.since (c.perform.run s).2.connection.backend,
      q.statement? ≠ some "BEGIN" := by
  have hne {sql : String} (hsql : effect sql = none) : sql ≠ "BEGIN" := by
    rintro rfl
    rw [heffect.begin_eq] at hsql
    cases hsql
  cases c with
  | execute sql values =>
    rw [Call.perform, Action.run_forget]
    exact (quiet_execute sql values s).no_begin (hne hc)
  | query sql values =>
    rw [Call.perform, Action.run_forget]
    exact (quiet_query sql values s).no_begin (hne hc)
  | lastInsertId =>
    rw [Call.perform, Action.run_forget]
    exact (quiet_lastInsertId s).no_begin (hne heffect.idQuery_eq)
  | begin =>
    have hsame : (Call.begin.perform.run s).2 = s := congrArg Prod.snd (run_begin_inside hinside)
    rw [hsame, (PgLink.sends_nil rfl rfl).since_eq]
    simp
  | commit =>
    obtain ⟨sent, hcontrol⟩ := controlled "COMMIT" s
    obtain ⟨t, hrun, hconnection⟩ := run_commit s
    have hperform : Call.commit.perform.run s = _ := hrun
    rw [hperform, hconnection]
    exact no_begin_of_isFor hcontrol.sends hcontrol.isFor (by decide)
  | rollback =>
    obtain ⟨sent, hcontrol⟩ := controlled "ROLLBACK" s
    obtain ⟨t, hrun, hconnection⟩ := run_rollback s
    have hperform : Call.rollback.perform.run s = _ := hrun
    rw [hperform, hconnection]
    rcases (s.controlAnswer "ROLLBACK").1.isOk
    · exact no_begin_of_isFor hcontrol.sends.letGo hcontrol.isFor (by decide)
    · exact no_begin_of_isFor hcontrol.sends hcontrol.isFor (by decide)

/-- A session whose link was let go outside of a transaction. -/
structure Gone (s : Session PgLink) : Prop where
  isHeld_eq : s.connection.backend.isHeld = false
  inTransaction_eq : s.connection.inTransaction = false

/-- A call on a session whose link is gone fails and sends nothing, and the link stays gone. -/
def Fails {α : Type} (s : Session PgLink) (out : Except DbError α × Session PgLink) : Prop :=
  (∃ e, out.1 = .error e) ∧ Gone out.2 ∧
    out.2.connection.backend.requests = s.connection.backend.requests

/-- An error after which the link is gone and nothing was sent. -/
theorem fails_of_connection {α : Type} {s t : Session PgLink} {l : PgLink} {isOpen : Bool}
    (hconnection : t.connection = { s.connection with backend := l, inTransaction := isOpen })
    (hheld : l.isHeld = false) (hopen : isOpen = false)
    (hrequests : l.requests = s.connection.backend.requests) (e : DbError) :
    Fails s ((.error e, t) : Except DbError α × Session PgLink) := by
  refine ⟨⟨e, rfl⟩, ⟨?_, ?_⟩, ?_⟩
  · rw [hconnection]
    exact hheld
  · rw [hconnection]
    exact hopen
  · rw [hconnection]
    exact hrequests

/-- A statement on a link that is gone fails, whether or not its parameters are accepted. -/
theorem Gone.fails_of_answers {α : Type} {s : Session PgLink} (h : Gone s) {values : List Value}
    {answer : Bound → Except DbError α × PgLink} {out : Except DbError α × Session PgLink}
    (hout : Answers s values answer out)
    (hanswer : ∀ b, answer b = (.error PgLink.released, s.connection.backend.fresh)) :
    Fails s out := by
  cases hout with
  | refused hbound hsame =>
    exact fails_of_connection hsame h.isHeld_eq h.inTransaction_eq rfl _
  | @answered b t hbound hconnection =>
    rw [hanswer b] at hconnection ⊢
    exact fails_of_connection hconnection h.isHeld_eq h.inTransaction_eq rfl _

/-- A connection whose backend has been let go executes nothing. -/
theorem Gone.fails_execute {s : Session PgLink} (h : Gone s) (sql : String) (values : List Value) :
    Fails s ((execute sql values).run s) :=
  h.fails_of_answers (answers_execute sql values s) fun b =>
    (PgLink.run_released h.isHeld_eq _ 0 sql b.values).1

/-- A connection whose backend has been let go reads no rows. -/
theorem Gone.fails_query {s : Session PgLink} (h : Gone s) (sql : String) (values : List Value) :
    Fails s ((query sql values).run s) :=
  h.fails_of_answers (answers_query sql values s) fun b =>
    (PgLink.run_released h.isHeld_eq _ _ sql b.values).2.1

/-- A connection whose backend has been let go finds no id. -/
theorem Gone.fails_lastInsertId {s : Session PgLink} (h : Gone s) :
    Fails s (lastInsertId.run s) := by
  obtain ⟨⟨e, he⟩, hgone, hrequests⟩ := h.fails_query s.dialect.lastInsertIdQuery []
  rw [run_lastInsertId_asked rfl, he]
  exact ⟨⟨e, rfl⟩, hgone, hrequests⟩

/-- What controls transactions fails, too, on a link that is gone. -/
theorem Gone.controlAnswer_eq {s : Session PgLink} (h : Gone s) (sql : String) :
    s.controlAnswer sql = (.error PgLink.released, s.connection.backend.fresh) :=
  (PgLink.run_released h.isHeld_eq none 0 sql []).2.2

/-- On a connection whose backend has been let go every call fails, and it stays gone. -/
theorem Gone.fails_perform {s : Session PgLink} (h : Gone s) (c : Call) :
    Fails s (c.perform.run s) := by
  have hforget {α : Type} {a : Action (Session PgLink) α} (ha : Fails s (a.run s)) :
      Fails s ((a >>= fun _ => pure ()).run s) := by
    obtain ⟨⟨e, he⟩, hgone, hrequests⟩ := ha
    rw [Action.run_forget, he]
    exact ⟨⟨e, rfl⟩, hgone, hrequests⟩
  cases c with
  | execute sql values => exact hforget (h.fails_execute sql values)
  | query sql values => exact hforget (h.fails_query sql values)
  | lastInsertId => exact hforget h.fails_lastInsertId
  | begin =>
    obtain ⟨t, hrun, hconnection⟩ := run_begin_outside h.inTransaction_eq
    have hperform : Call.begin.perform.run s = _ := hrun
    rw [h.controlAnswer_eq] at hperform hconnection
    rw [hperform]
    exact fails_of_connection hconnection h.isHeld_eq rfl rfl _
  | commit =>
    obtain ⟨t, hrun, hconnection⟩ := run_commit s
    have hperform : Call.commit.perform.run s = _ := hrun
    rw [h.controlAnswer_eq] at hperform hconnection
    rw [hperform]
    refine fails_of_connection hconnection h.isHeld_eq ?_ rfl _
    rw [h.inTransaction_eq, Bool.false_and]
  | rollback =>
    obtain ⟨t, hrun, hconnection⟩ := run_rollback s
    have hperform : Call.rollback.perform.run s = _ := hrun
    rw [h.controlAnswer_eq] at hperform hconnection
    rw [hperform]
    exact fails_of_connection hconnection rfl rfl rfl _

/-- A link that is gone stays gone, and nothing more is sent on it. -/
theorem Gone.performAll {s : Session PgLink} (h : Gone s) (calls : List Call) :
    Gone (performAll calls s) ∧
      (performAll calls s).connection.backend.requests = s.connection.backend.requests := by
  induction calls generalizing s with
  | nil => exact ⟨h, rfl⟩
  | cons c calls ih =>
    obtain ⟨-, hgone, hrequests⟩ := h.fails_perform c
    obtain ⟨hlast, hsame⟩ := ih hgone
    exact ⟨hlast, hsame.trans hrequests⟩

/-- A connection on a link that is gone is not kept. -/
theorem Gone.giveBack_eq {s : Session PgLink} (h : Gone s) : s.connection.giveBack.1 = none := by
  have hheld : Backend.isHeld s.connection.backend = false := h.isHeld_eq
  simp [Connection.giveBack, h.inTransaction_eq, hheld]

/-- A rollback that fails lets the link go. -/
theorem gone_of_rollback {s t : Session PgLink} {e : DbError} (h : rollback.run s = (.error e, t)) :
    Gone t := by
  obtain ⟨u, hrun, hconnection⟩ := run_rollback s
  obtain ⟨he, rfl⟩ := Prod.mk.inj (hrun.symm.trans h)
  rw [he] at hconnection
  refine ⟨?_, ?_⟩
  · rw [hconnection]
    rfl
  · rw [hconnection]

/-- What is true of a connection `t` that started as `s`. -/
structure Released (effect : String → Option Bool) (s t : Session PgLink) : Prop where
  /-- It is kept for others exactly if its link is held and no transaction is open at the server. -/
  kept : t.connection.giveBack.1 =
    if t.connection.backend.isHeld &&
      !openAtServer effect (s.connection.backend.dialogue t.connection.backend)
    then some t.connection.backend else none
  /-- Inside a transaction another one is refused, and nothing changes. -/
  begin_inside : t.connection.inTransaction = true →
    begin.run t = (.error (.validation "a transaction is already open on this connection"), t)
  /-- Inside a transaction no call sends a BEGIN. -/
  no_begin : t.connection.inTransaction = true → ∀ c : Call, c.Harmless effect →
    ∀ q ∈ t.connection.backend.since (c.perform.run t).2.connection.backend,
      q.statement? ≠ some "BEGIN"
  /-- A COMMIT that fails leaves the flag as it is. -/
  failed_commit : ∀ e u, commit.run t = (.error e, u) →
    u.connection.inTransaction = t.connection.inTransaction
  /-- After a ROLLBACK the flag is off. -/
  rolledBack : ∀ r u, rollback.run t = (r, u) → u.connection.inTransaction = false
  /-- A ROLLBACK that fails lets the link go: after it every call fails, nothing more is sent, and
  the connection is not kept. -/
  failed_rollback : ∀ e u, rollback.run t = (.error e, u) → Gone u ∧ ∀ later : List Call,
    (performAll later u).connection.giveBack.1 = none ∧
    (performAll later u).connection.backend.requests = u.connection.backend.requests ∧
    ∀ c : Call, ∃ f, (c.perform.run (performAll later u)).1 = .error f

/-- Whatever is called on a connection, and whatever the server says, it comes back to others only
outside of a transaction. -/
theorem released_outside_transactions (heffect : ControlsTransactions effect)
    (s : Session PgLink) (hclosed : s.connection.inTransaction = false) (calls : List Call)
    (hcalls : ∀ c ∈ calls, c.Harmless effect) : Released effect s (performAll calls s) := by
  have hagrees : Agrees false s := hclosed.trans (Bool.and_false _).symm
  obtain ⟨sent, hsends, hlast⟩ := follows_performAll heffect hcalls hagrees
  refine ⟨?_, run_begin_inside, fun hinside c hc => no_begin_inside heffect hc hinside, ?_, ?_, ?_⟩
  · rw [hsends.dialogue_eq]
    exact hlast.giveBack_eq
  · intro e u hrun
    obtain ⟨v, hcommit, hconnection⟩ := run_commit (performAll calls s)
    obtain ⟨he, rfl⟩ := Prod.mk.inj (hcommit.symm.trans hrun)
    rw [hconnection, he]
    exact Bool.and_true _
  · intro r u hrun
    obtain ⟨v, hrollback, hconnection⟩ := run_rollback (performAll calls s)
    obtain ⟨-, rfl⟩ := Prod.mk.inj (hrollback.symm.trans hrun)
    rw [hconnection]
  · intro e u hrun
    have hgone := gone_of_rollback hrun
    refine ⟨hgone, fun later => ?_⟩
    obtain ⟨hstill, hrequests⟩ := hgone.performAll later
    exact ⟨hstill.giveBack_eq, hrequests, fun c => (hstill.fails_perform c).1⟩

/-- The statements that control transactions, and no others. -/
def controlEffect (sql : String) : Option Bool :=
  if sql = "BEGIN" then some true
  else if sql = "COMMIT" ∨ sql = "ROLLBACK" then some false
  else none

/-- A connection whose server accepts a BEGIN and a statement, but not the COMMIT after them. -/
def refusedCommit : Session PgLink where
  connection :=
    { settings := {}
      backend :=
        { replies := [(0, .completed 0), (0, .described ⟨[], []⟩), (0, .completed 1),
            (0, .refused ⟨"40001", "could not serialize", none⟩)] } }

/-- A transaction that is committed after one statement. -/
def commitAfterUpdate : List Call := [.begin, .execute "UPDATE t SET n = 1" [], .commit]

/-- After the refused COMMIT a transaction is open at the server, and the connection is not kept. -/
theorem refusedCommit_released :
    ControlsTransactions controlEffect ∧ refusedCommit.connection.inTransaction = false ∧
    (∀ c ∈ commitAfterUpdate, c.Harmless controlEffect) ∧
    Released controlEffect refusedCommit (performAll commitAfterUpdate refusedCommit) ∧
    (performAll commitAfterUpdate refusedCommit).connection.giveBack.1 = none := by
  have heffect : ControlsTransactions controlEffect := by
    constructor <;> decide
  have hcalls : ∀ c ∈ commitAfterUpdate, c.Harmless controlEffect := by
    simp [commitAfterUpdate, Call.Harmless, controlEffect]
  have hreleased := released_outside_transactions heffect refusedCommit rfl _ hcalls
  have hopen : openAtServer controlEffect (refusedCommit.connection.backend.dialogue
      (performAll commitAfterUpdate refusedCommit).connection.backend) = true := by decide
  refine ⟨heffect, rfl, hcalls, hreleased, ?_⟩
  rw [hreleased.kept, hopen, Bool.not_true, Bool.and_false]
  rfl

end Session

end SqlAccess
