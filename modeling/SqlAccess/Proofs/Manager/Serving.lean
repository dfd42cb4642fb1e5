import SqlAccess.Manager.Basic
import SqlAccess.Postgres.Link
import SqlAccess.Proofs.Connection.Settling

/-!
# Work on a connection of its own

A manager that cannot hand out a connection answers with that error, and nothing is sent. Otherwise
all that is sent is sent on that connection, which starts outside of a transaction with the settings
of the manager and is taken back in the end. What was sent is read off the session of the work
itself, so it is known as well of a connection that is closed when it is taken back.
-/

namespace SqlAccess.Manager

variable {α β : Type}

/-- A connection at work for a manager. -/
def session (c : Connection β) (m : Manager β) : Session β :=
  { connection := c, monitor := m.monitor, events := m.events }

/-- A manager while a connection of its own is at work. -/
def during (s : Session β) (m : Manager β) : Manager β :=
  { m with monitor := s.monitor, events := s.events }

/-- Work on a connection is done by the session of that connection. -/
theorem run_on (work : Action (Session β) α) (s : Session β) (m : Manager β) :
    (on s.connection work).run (m.during s) =
      (.ok ((work.run s).1, (work.run s).2.connection), m.during (work.run s).2) := rfl

variable [Backend β]

/-- A manager after a piece of work on a connection that is taken back. -/
def afterwards (s : Session β) (m : Manager β) : Manager β := giveBack s.connection (m.during s)

/-- Work that is finished leaves the manager as after taking the connection back. -/
theorem run_finishing (work : Action (Session β) α) (s : Session β) (m : Manager β) :
    (finishing s.connection work).run (m.during s) =
      ((work.run s).1, m.afterwards (work.run s).2) := rfl

/-- A connection that is taken back inside a transaction does not wait for others. -/
theorem waiting_afterwards {s : Session β} (hopen : s.connection.inTransaction = true)
    (m : Manager β) : (m.afterwards s).pool.waiting = m.pool.waiting := by
  have hgone : s.connection.giveBack = (none, [Connection.openTransaction]) := by
    rw [Connection.giveBack, if_pos hopen]
  rw [afterwards, giveBack, hgone]
  rfl

/-- A connection that is handed out has the settings of the manager and no open transaction. -/
theorem acquire_ok {m m' : Manager β} {c : Connection β} (h : acquire.run m = (.ok c, m')) :
    c.settings = m.settings ∧ c.inTransaction = false := by
  have hacquire : acquire.run m =
      (((Pool.acquire m.endpoint.check).run m.pool).1.map fun p : β × Nat =>
        ({ backend := p.1, settings := m.settings, openedAt := p.2 } : Connection β),
        { m with pool := ((Pool.acquire m.endpoint.check).run m.pool).2 }) := rfl
  obtain ⟨hc, -⟩ := Prod.mk.inj (hacquire.symm.trans h)
  rcases hpool : ((Pool.acquire m.endpoint.check).run m.pool).1 with e | p
  · rw [hpool] at hc
    cases hc
  · rw [hpool] at hc
    obtain rfl := Except.ok.inj hc
    exact ⟨rfl, rfl⟩

/-- An action of a manager is a piece of work on a connection of its own: it ends as the work does
that starts on the connection handed out, and the connection is taken back as the work leaves it.
Something holds of where the work starts, of what is sent by it, of its result, and of whether a
transaction is open at its end. Without a connection the error is the one of asking for it. -/
def Serves (m : Manager (Recorded β Sent)) (act : Action (Manager (Recorded β Sent)) α)
    (work : Action (Session (Recorded β Sent)) α)
    (spec : Session (Recorded β Sent) → List Sent → Except DbError α → Bool → Prop) : Prop :=
  match acquire.run m with
  | (.error e, m') => act.run m = (.error e, m')
  | (.ok c, m') =>
    act.run m = ((work.run (m'.session c)).1, m'.afterwards (work.run (m'.session c)).2) ∧
      ∃ sent, (work.run (m'.session c)).2.log = c.backend.log ++ sent ∧
        spec (m'.session c) sent (work.run (m'.session c)).1
          (work.run (m'.session c)).2.connection.inTransaction

/-- Work on a session is served if it is right wherever it starts. -/
theorem serves_withConnection {m : Manager (Recorded β Sent)}
    {work : Action (Session (Recorded β Sent)) α}
    {spec : Session (Recorded β Sent) → List Sent → Except DbError α → Bool → Prop}
    (h : ∀ s : Session (Recorded β Sent), s.connection.settings = m.settings →
      s.connection.inTransaction = false → ∃ sent, s.Sends sent (work.run s).2 ∧
        spec s sent (work.run s).1 (work.run s).2.connection.inTransaction) :
    m.Serves (withConnection work) work spec := by
  unfold Serves
  rcases hacquire : (acquire (β := Recorded β Sent)).run m with ⟨e | c, m'⟩
  · exact Action.run_bind_error hacquire
  · obtain ⟨hsettings, hclosed⟩ := acquire_ok hacquire
    obtain ⟨sent, hsends, hspec⟩ := h (m'.session c) hsettings hclosed
    have hrun : (withConnection work).run m =
        ((work.run (m'.session c)).1, m'.afterwards (work.run (m'.session c)).2) :=
      (Action.run_bind_ok hacquire).trans (run_finishing work (m'.session c) m')
    exact ⟨hrun, sent, hsends.log_eq, hspec⟩

/-- What a unit of work on a session comes to: it settles what is done after the BEGIN, there is a
result exactly if a COMMIT succeeds, and no transaction is left open. -/
structure Settled (inner : Session (Recorded β Sent) → List Sent → Except DbError α → Prop)
    (s : Session (Recorded β Sent)) (sent : List Sent) (r : Except DbError α) (isOpen : Bool) :
    Prop where
  settles : Settles (inner (Session.begin.run s).2) sent r
  isOk_iff : (∃ a, r = .ok a) ↔ .control "COMMIT" (.ok ()) ∈ sent
  isOpen_eq : isOpen = false

/-- Work that is done as a unit is settled. -/
theorem serves_asUnit {m : Manager (Recorded β Sent)}
    {work : Action (Session (Recorded β Sent)) α}
    {inner : Session (Recorded β Sent) → List Sent → Except DbError α → Prop}
    (hinner : ∀ s sent r, inner s sent r → NoControl sent)
    (hwork : ∀ s : Session (Recorded β Sent), s.connection.settings = m.settings →
      Session.Does (inner s) work s) :
    m.Serves (withConnection (asUnit work)) (asUnit work) (Settled inner) := by
  refine serves_withConnection fun s hsettings hclosed => ?_
  obtain ⟨sent, hsettles, hsends, hend⟩ :=
    Session.settles_asUnit hclosed fun t ht => hwork t (ht.trans hsettings)
  exact ⟨sent, hsends, hsettles, hsettles.isOk_iff (hinner _), hend⟩

/-- A session on which nothing has been sent, and what its server is going to say. -/
def untouched (replies : List PgReply) : Session (Recorded PgLink Sent) where
  connection :=
    { backend := ⟨{ replies := replies.map fun reply => (0, reply) }, []⟩
      settings := {} }

/-- A manager with one connection that waits, and what its server is going to say. -/
def lone (replies : List PgReply) : Manager (Recorded PgLink Sent) where
  endpoint := .postgres {}
  settings := {}
  pool :=
    { capacity := 1
      waiting := [⟨(untouched replies).connection.backend, 0, 0⟩] }

/-- The manager of one connection after it has handed it out. -/
def lent (replies : List PgReply) : Manager (Recorded PgLink Sent) :=
  (acquire.run (lone replies)).2

/-- What a manager of one connection does starts on that connection, and all that is then in its log
has been sent for it. -/
theorem Serves.of_lone {replies : List PgReply} {act : Action (Manager (Recorded PgLink Sent)) α}
    {work : Action (Session (Recorded PgLink Sent)) α}
    {spec : Session (Recorded PgLink Sent) → List Sent → Except DbError α → Bool → Prop}
    (h : (lone replies).Serves act work spec) :
    act.run (lone replies) = ((work.run (untouched replies)).1,
        (lent replies).afterwards (work.run (untouched replies)).2) ∧
      spec (untouched replies) (work.run (untouched replies)).2.log
        (work.run (untouched replies)).1
        (work.run (untouched replies)).2.connection.inTransaction := by
  obtain ⟨hrun, sent, hlog, hspec⟩ := h
  have hsent : (work.run (untouched replies)).2.log = sent := hlog
  rw [hsent]
  exact ⟨hrun, hspec⟩

end SqlAccess.Manager
