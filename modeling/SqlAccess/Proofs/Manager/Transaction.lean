import SqlAccess.Manager.Work
import SqlAccess.Proofs.Manager.Serving

/-!
# Success means committed

A single call on a manager is one unit of work. A transaction sends one BEGIN when it is opened;
what is asked of it sends nothing that controls transactions, whatever becomes of it; and its end
sends a COMMIT, a COMMIT and a ROLLBACK, or a ROLLBACK. In each case success is told exactly after a
COMMIT that succeeded, and the error of a ROLLBACK never takes the place of an earlier one.
-/

namespace SqlAccess

namespace Guarded

variable {σ α γ : Type}

/-- What is done inside is done by the executor that will finish the transaction. -/
private theorem run_unguard (a : Action (Guarded σ) α) (s : σ) :
    (unguard a).run s = ((a.run ⟨s⟩).1, (a.run ⟨s⟩).2.inner) := rfl

/-- Actions that follow one another inside do so outside, too. -/
theorem unguard_bind (a : Action (Guarded σ) α) (f : α → Action (Guarded σ) γ) :
    unguard (a >>= f) = unguard a >>= fun x => unguard (f x) := by
  funext s
  show (unguard (a >>= f)).run s = (unguard a >>= fun x => unguard (f x)).run s
  rcases hx : a.run ⟨s⟩ with ⟨e | x, t⟩
  · have hinner : (unguard a).run s = (.error e, t.inner) := by rw [run_unguard, hx]
    rw [run_unguard, Action.run_bind_error hx, Action.run_bind_error hinner]
  · have hinner : (unguard a).run s = (.ok x, t.inner) := by rw [run_unguard, hx]
    rw [run_unguard, Action.run_bind_ok hx, Action.run_bind_ok hinner, run_unguard]

variable [Executor σ]

/-- A statement under construction that changes rows runs inside a transaction as it does outside.
-/
theorem unguard_mutation [Mutation α] (q : α) :
    unguard (Mutation.execute q) = (Mutation.execute q : Action σ UInt64) := by
  unfold Mutation.execute
  simp only [unguard_bind]
  rfl

/-- A statement whose rows are read runs inside a transaction as it does outside. -/
theorem unguard_fetch [Statement α] (q : α) :
    unguard (Statement.query q) = (Statement.query q : Action σ RecordSet) := by
  unfold Statement.query
  simp only [unguard_bind]
  rfl

/-- An insert whose id is asked for runs inside a transaction as it does outside. -/
theorem unguard_insertLastId (q : Insert) :
    unguard q.insertLastId = (q.insertLastId : Action σ UInt64) := by
  unfold Insert.insertLastId
  rw [unguard_bind, unguard_mutation]
  rfl

end Guarded

namespace Transaction

/-- What may be asked of a transaction that is open. -/
inductive Request : Type 1
  | fetch {α : Type} [Statement α] (q : α)
  | run {α : Type} [Mutation α] (q : α)
  | insert (q : Insert)
  | execute (sql : String) (values : List Value)
  | query (sql : String) (values : List Value)
  | lastInsertId
  | begin
  | commit
  | rollback

/-- The work of a request; only its error is kept. -/
def Request.work {σ : Type} [Executor σ] : Request → Action (Guarded σ) Unit
  | @fetch _ _ q => Statement.query q >>= fun _ => pure ()
  | @run _ _ q => Mutation.execute q >>= fun _ => pure ()
  | .insert q => q.insertLastId >>= fun _ => pure ()
  | .execute sql values => Executor.execute sql values >>= fun _ => pure ()
  | .query sql values => Executor.query sql values >>= fun _ => pure ()
  | .lastInsertId => Executor.lastInsertId >>= fun _ => pure ()
  | .begin => Executor.begin
  | .commit => Executor.commit
  | .rollback => Executor.rollback

variable {α β : Type}

/-- Of the work inside a transaction whose result is not kept, what it sends is. -/
theorem does_discarded {γ : Type} {work : Action (Guarded (Session (Recorded β Sent))) γ}
    {same : Action (Session (Recorded β Sent)) γ} {P : List Sent → Except DbError γ → Prop}
    {s : Session (Recorded β Sent)} (hsame : Guarded.unguard work = same)
    (h : Session.Does P same s) (hP : ∀ sent r, P sent r → NoControl sent) :
    Session.Does (fun sent _ => NoControl sent)
      (Guarded.unguard (work >>= fun _ => pure ())) s := by
  have hnothing : ∀ t : Session (Recorded β Sent), Session.Does
      (fun sent (_ : Except DbError Unit) => sent = []) (Guarded.unguard (pure ())) t :=
    fun _ => Session.does_of_same rfl rfl rfl
  rw [Guarded.unguard_bind, hsame]
  refine h.bind (fun _ => hnothing _) (fun sent e h => hP sent _ h)
    fun sent x more r h hmore => ?_
  rw [hmore, List.append_nil]
  exact hP sent _ h

variable [Backend β]

/-- Requests one after another, whatever becomes of them. -/
def drive (t : Transaction β) : List Request → Action (Manager β) (Transaction β)
  | [] => pure t
  | request :: rest => do
    let (_, t) ← within t request.work
    drive t rest

/-- How a transaction ends. -/
inductive Ending
  | commit
  | rollback
  | abandon
  | forsake

/-- Ends a transaction. -/
def finish (t : Transaction β) : Ending → Action (Manager β) Unit
  | .commit => commit t
  | .rollback => rollback t
  | .abandon => abandon t
  | .forsake => forsake t

/-- A transaction from the call that opens it to its end. -/
def live (requests : List Request) (ending : Ending) : Action (Manager β) Unit := do
  let t ← open?
  let t ← drive t requests
  finish t ending

/-- What requests come to on the session of their transaction. -/
def asked : List Request → Action (Session β) Unit
  | [] => pure ()
  | request :: rest => do
    let _ ← (Guarded.unguard request.work).attempt
    asked rest

/-- What the end of a transaction comes to on its session: a COMMIT that is settled, a ROLLBACK
whose failure is told or is only reported, or nothing but a report. -/
def Ending.work : Ending → Action (Session β) Unit
  | .commit => settle (.ok ())
  | .rollback => Executor.rollback
  | .abandon => do
    Action.change (Session.report [abandoned])
    rollbackQuietly
  | .forsake => Action.change (Session.report [abandoned])

/-- A transaction on its session, from the BEGIN to its end. -/
def course (requests : List Request) (ending : Ending) : Action (Session β) Unit := do
  Executor.begin
  asked requests
  ending.work

/-- What the end of a transaction sends, what comes of it, and whether its connection still counts
as inside a transaction when it is taken back. -/
inductive Closes : Ending → List Sent → Except DbError Unit → Bool → Prop
  | commit {sent : List Sent} {r : Except DbError Unit} (h : Ends (.ok ()) sent r) :
    Closes .commit sent r false
  | rollback (answer : Except DbError Unit) :
    Closes .rollback [.control "ROLLBACK" answer] answer false
  | abandon (answer : Except DbError Unit) :
    Closes .abandon [.control "ROLLBACK" answer] (.ok ()) false
  | forsake : Closes .forsake [] (.ok ()) true

/-- What a transaction sends from the call that opens it to its end. -/
inductive Lived (ending : Ending) : List Sent → Except DbError Unit → Bool → Prop
  | notBegun (e : DbError) : Lived ending [.control "BEGIN" (.error e)] (.error e) false
  | closed {body last : List Sent} {r : Except DbError Unit} {isOpen : Bool}
    (hbody : NoControl body) (hcloses : Closes ending last r isOpen) :
    Lived ending (.control "BEGIN" (.ok ()) :: body ++ last) r isOpen

/-- What a transaction comes to: what is sent for it, and a COMMIT that succeeds exactly if it ends
by one and success is told. -/
structure Finished (ending : Ending) (sent : List Sent) (r : Except DbError Unit) (isOpen : Bool) :
    Prop where
  lived : Lived ending sent r isOpen
  committed_iff : ending = .commit ∧ r = .ok () ↔ .control "COMMIT" (.ok ()) ∈ sent

/-- A COMMIT that succeeds is sent only by the end that commits, and success is told after it alone.
-/
theorem Closes.committed_iff {ending : Ending} {last : List Sent} {r : Except DbError Unit}
    {isOpen : Bool} (h : Closes ending last r isOpen) :
    ending = .commit ∧ r = .ok () ↔ .control "COMMIT" (.ok ()) ∈ last := by
  cases h with
  | commit h =>
    rw [← h.isOk_iff]
    exact ⟨fun h => ⟨(), h.2⟩, fun ⟨_, h⟩ => ⟨rfl, h⟩⟩
  | rollback answer => simp
  | abandon answer => simp
  | forsake => simp

/-- Between its BEGIN and its end a transaction sends no COMMIT. -/
theorem Lived.finished {ending : Ending} {sent : List Sent} {r : Except DbError Unit}
    {isOpen : Bool} (h : Lived ending sent r isOpen) : Finished ending sent r isOpen := by
  refine ⟨h, ?_⟩
  cases h with
  | notBegun e => simp
  | @closed body last r isOpen hbody hcloses =>
    rw [hcloses.committed_iff]
    simp [hbody.notMem]

/-- No request sends anything that controls transactions. -/
theorem does_request (request : Request) (s : Session (Recorded β Sent)) :
    Session.Does (fun sent _ => NoControl sent) (Guarded.unguard request.work) s := by
  have hrefused (e : DbError) : Session.Does (fun sent (_ : Except DbError Unit) => NoControl sent)
      (Guarded.unguard (Action.fail e)) s := Session.does_of_same rfl rfl noControl_nil
  cases request with
  | fetch q =>
    exact does_discarded (Guarded.unguard_fetch q) (Session.does_fetch q s) fun _ _ h =>
      Reads.noControl h
  | run q =>
    exact does_discarded (Guarded.unguard_mutation q) (Session.does_mutation q s) fun _ _ h =>
      Writes.noControl h
  | insert q =>
    exact does_discarded (Guarded.unguard_insertLastId q) (Session.does_insertLastId q s)
      fun _ _ h => h.noControl
  | execute sql values =>
    exact does_discarded rfl (Session.does_execute sql values s) fun _ _ h => h.noControl
  | query sql values =>
    exact does_discarded rfl (Session.does_query sql values s) fun _ _ h => h.noControl
  | lastInsertId => exact does_discarded rfl (Session.does_lastInsertId s) fun _ _ h => h.noControl
  | begin => exact hrefused _
  | commit => exact hrefused _
  | rollback => exact hrefused _

/-- Requests never stop one another. -/
theorem run_asked (requests : List Request) (s : Session β) :
    (asked requests).run s = (.ok (), ((asked requests).run s).2) := by
  induction requests generalizing s with
  | nil => rfl
  | cons request rest ih => exact ih ((Guarded.unguard request.work).run s).2

/-- A manager at the requests of a transaction does what they come to on its session. -/
theorem run_drive (requests : List Request) (s : Session β) (m : Manager β) :
    (drive ⟨s.connection⟩ requests).run (m.during s) =
      (.ok ⟨((asked requests).run s).2.connection⟩, m.during ((asked requests).run s).2) := by
  induction requests generalizing s with
  | nil => rfl
  | cons request rest ih => exact ih ((Guarded.unguard request.work).run s).2

/-- A manager at the end of a transaction does what it comes to on its session, and takes the
connection back. -/
theorem run_finish (ending : Ending) (s : Session β) (m : Manager β) :
    (finish ⟨s.connection⟩ ending).run (m.during s) =
      ((ending.work.run s).1, m.afterwards (ending.work.run s).2) := by
  cases ending <;> rfl

/-- A transaction that could not be opened has no course. -/
private theorem run_course_error {requests : List Request} {ending : Ending} {s t : Session β}
    {e : DbError} (h : Session.begin.run s = (.error e, t)) :
    (course requests ending).run s = (.error e, t) :=
  Action.run_bind_error h

/-- A transaction that was opened runs through its requests to its end. -/
private theorem run_course_ok {requests : List Request} {ending : Ending} {s t : Session β}
    (h : Session.begin.run s = (.ok (), t)) :
    (course requests ending).run s = ending.work.run ((asked requests).run t).2 :=
  (Action.run_bind_ok h).trans (Action.run_bind_ok (run_asked requests t))

/-- A transaction of a manager, from the call that opens it to the one that ends it, is its course
on a connection of its own. -/
theorem live_eq_withConnection (requests : List Request) (ending : Ending) :
    live (β := β) requests ending = Manager.withConnection (course requests ending) := by
  funext m
  unfold live open?
  rw [Action.bind_assoc]
  rcases hacquire : (Manager.acquire (β := β)).run m with ⟨e | c, m'⟩
  · exact (Action.run_bind_error hacquire).trans (Action.run_bind_error hacquire).symm
  · refine (Action.run_bind_ok hacquire).trans (Eq.trans ?_ (Action.run_bind_ok hacquire).symm)
    refine Eq.trans ?_ (Manager.run_finishing _ (m'.session c) m').symm
    have hstart := Manager.run_on Session.begin (m'.session c) m'
    rcases hbegin : Session.begin.run (m'.session c) with ⟨e | _, s⟩
    · rw [hbegin] at hstart
      rw [run_course_error hbegin]
      exact Action.run_bind_error ((Action.run_bind_ok hstart).trans rfl)
    · rw [hbegin] at hstart
      rw [run_course_ok hbegin]
      refine (Action.run_bind_ok ((Action.run_bind_ok hstart).trans rfl)).trans ?_
      exact (Action.run_bind_ok (run_drive requests s m')).trans (run_finish ending _ m')

/-- What is asked of a transaction one after another sends nothing that controls transactions, and
leaves it open. -/
theorem sends_asked (requests : List Request) (s : Session (Recorded β Sent)) :
    ∃ sent, NoControl sent ∧ s.Sends sent ((asked requests).run s).2 ∧
      ((asked requests).run s).2.connection.inTransaction = s.connection.inTransaction := by
  induction requests generalizing s with
  | nil => exact ⟨[], noControl_nil, Session.sends_nil s, rfl⟩
  | cons request rest ih =>
    obtain ⟨sent, hquiet, hsends, hflag⟩ := does_request request s
    obtain ⟨more, hrest, hmore, hstill⟩ := ih ((Guarded.unguard request.work).run s).2
    exact ⟨sent ++ more, hquiet.append hrest, hsends.trans hmore, hstill.trans hflag⟩

/-- The end of a transaction that is open closes it. -/
theorem closes_ending (ending : Ending) {s : Session (Recorded β Sent)}
    (hopen : s.connection.inTransaction = true) :
    ∃ last, s.Sends last (ending.work.run s).2 ∧
      Closes ending last (ending.work.run s).1
        (ending.work.run s).2.connection.inTransaction := by
  cases ending with
  | commit =>
    obtain ⟨last, hends, hsends, hclosed⟩ := Session.sends_settle (.ok ()) s
    refine ⟨last, hsends, ?_⟩
    rw [Ending.work, hclosed]
    exact .commit hends
  | rollback =>
    obtain ⟨answer, t, hrun, hsends, hclosed⟩ := Session.sends_rollback s
    have hwork : (Ending.rollback.work).run s = (answer, t) := hrun
    rw [hwork]
    refine ⟨_, hsends, ?_⟩
    rw [hclosed]
    exact .rollback answer
  | abandon =>
    obtain ⟨answer, hsends, hclosed⟩ := Session.sends_afterRollback (s.report [abandoned])
    have hwork : (Ending.abandon.work).run s = (.ok (), afterRollback (s.report [abandoned])) :=
      (Action.run_bind_ok (Action.run_change _ s)).trans (run_rollbackQuietly _)
    rw [hwork]
    refine ⟨_, ⟨hsends.log_eq, hsends.settings_eq⟩, ?_⟩
    rw [hclosed]
    exact .abandon answer
  | forsake =>
    have hwork : (Ending.forsake.work).run s = (.ok (), s.report [abandoned]) := rfl
    rw [hwork, Session.connection_report, hopen]
    exact ⟨[], ⟨(List.append_nil _).symm, rfl⟩, .forsake⟩

/-- A transaction from the call that opens it to its end. -/
theorem serves_live (requests : List Request) (ending : Ending) (m : Manager (Recorded β Sent)) :
    m.Serves (live requests ending) (course requests ending) fun _ => Finished ending := by
  rw [live_eq_withConnection]
  refine Manager.serves_withConnection fun s _ hclosed => ?_
  obtain ⟨e | _, t, hrun, hbegin, hflag⟩ := Session.sends_begin hclosed
  · rw [run_course_error hrun, hflag]
    exact ⟨_, hbegin, Lived.finished (.notBegun e)⟩
  · obtain ⟨body, hbody, hsends, hstill⟩ := sends_asked requests t
    obtain ⟨last, hlast, hcloses⟩ := closes_ending ending (hstill.trans hflag)
    rw [run_course_ok hrun]
    exact ⟨_, (hbegin.trans hsends).trans hlast, Lived.finished (.closed hbody hcloses)⟩

end Transaction

namespace Manager

/-- Success is told exactly when the work was committed: by a call that is a unit of work on its
own, and by a transaction that ends with a COMMIT. Each of them is a piece of work on a connection
of its own, and all that is sent is in the log of that connection. Inside a transaction, opening,
committing and rolling back are refused and nothing changes; a connection that still counts as
inside a transaction when it is taken back does not wait for others. -/
theorem success_means_committed {β : Type} [Backend β] (m : Manager (Recorded β Sent)) :
    (∀ sql values, m.Serves (execute sql values) (asUnit (Executor.execute sql values))
      (Settled fun _ => Executes m.settings.binder sql values)) ∧
    (∀ {α : Type} [Mutation α] (q : α), m.Serves (runMutation q) (asUnit (Mutation.execute q))
      (Settled fun s => Writes s.dialect m.settings.binder q)) ∧
    (∀ q : Insert, m.Serves (insertLastId q) (asUnit q.insertLastId)
      (Settled fun s => Inserts s m.settings.binder q)) ∧
    (∀ requests ending, m.Serves (Transaction.live requests ending)
      (Transaction.course requests ending) fun _ => Transaction.Finished ending) ∧
    (∀ t : Transaction (Recorded β Sent),
      (t.within Executor.begin).run m =
        (.ok (.error (.validation "transaction already open"), t), m) ∧
      (t.within Executor.commit).run m =
        (.ok (.error (.validation "use DbTrx::commit to finish a transaction"), t), m) ∧
      (t.within Executor.rollback).run m =
        (.ok (.error (.validation "use DbTrx::rollback to finish a transaction"), t), m)) ∧
    ∀ s : Session (Recorded β Sent), s.connection.inTransaction = true →
      (m.afterwards s).pool.waiting = m.pool.waiting := by
  refine ⟨?_, ?_, ?_, ?_, ?_, fun s hopen => waiting_afterwards hopen m⟩
  · intro sql values
    refine serves_asUnit (fun _ _ _ h => h.noControl) fun s hsettings => ?_
    rw [← hsettings]
    exact Session.does_execute sql values s
  · intro α _ q
    refine serves_asUnit (fun _ _ _ h => Writes.noControl h) fun s hsettings => ?_
    rw [← hsettings]
    exact Session.does_mutation q s
  · intro q
    refine serves_asUnit (fun _ _ _ h => h.noControl) fun s hsettings => ?_
    rw [← hsettings]
    exact Session.does_insertLastId q s
  · intro requests ending
    exact Transaction.serves_live requests ending m
  · intro t
    exact ⟨rfl, rfl, rfl⟩

/-- A statement as a unit of work, as the connection of a manager does it. -/
def oneUpdate : Action (Session (Recorded PgLink Sent)) UInt64 :=
  asUnit (Executor.execute "UPDATE t SET n = 1" [])

/-- A transaction with one statement, as the connection of a manager does it. -/
def updateCommitted : Action (Session (Recorded PgLink Sent)) Unit :=
  Transaction.course [.execute "UPDATE t SET n = 1" []] .commit

/-- A server that accepts a BEGIN, a statement and a COMMIT. -/
def accepting : List PgReply :=
  [.completed 0, .described ⟨[], []⟩, .completed 1, .completed 0]

/-- A server that accepts a BEGIN, a statement and a ROLLBACK, but not the COMMIT between them. -/
def refusingCommit : List PgReply :=
  [.completed 0, .described ⟨[], []⟩, .completed 1, .refused ⟨"23505", "taken", none⟩, .completed 0]

/-- The error of the server of `refusingCommit`. -/
def taken : DbError := .statement .constraint "[23505] taken"

/-- A statement succeeds, but since the COMMIT fails no success is told. A transaction tells success
after its COMMIT, and its connection waits for others. A connection on loan that is inside a
transaction does not come back. -/
theorem refusedCommit_means_failure :
    ((execute "UPDATE t SET n = 1" []).run (lone refusingCommit) = (.error taken,
        (lent refusingCommit).afterwards (oneUpdate.run (untouched refusingCommit)).2) ∧
      (oneUpdate.run (untouched refusingCommit)).2.log =
        [.control "BEGIN" (.ok ()), .execute "UPDATE t SET n = 1" [] (.ok 1),
          .control "COMMIT" (.error taken), .control "ROLLBACK" (.ok ())] ∧
      Settled (fun _ => Executes ⟨false⟩ "UPDATE t SET n = 1" []) (untouched refusingCommit)
        (oneUpdate.run (untouched refusingCommit)).2.log (.error taken) false) ∧
    ((Transaction.live [.execute "UPDATE t SET n = 1" []] .commit).run (lone accepting) = (.ok (),
        (lent accepting).afterwards (updateCommitted.run (untouched accepting)).2) ∧
      ((lent accepting).afterwards (updateCommitted.run (untouched accepting)).2).pool.waiting.map
          (fun w => w.backend.log) =
        [[.control "BEGIN" (.ok ()), .execute "UPDATE t SET n = 1" [] (.ok 1),
          .control "COMMIT" (.ok ())]]) ∧
    ∃ s : Session (Recorded PgLink Sent), s.connection.inTransaction = true ∧
      ((lone accepting).afterwards s).pool.waiting = (lone accepting).pool.waiting := by
  refine ⟨?_, ?_, ?_⟩
  · have hserves : (lone refusingCommit).Serves (execute "UPDATE t SET n = 1" []) oneUpdate
        (Settled fun _ => Executes ⟨false⟩ "UPDATE t SET n = 1" []) :=
      (success_means_committed (lone refusingCommit)).1 "UPDATE t SET n = 1" []
    have hresult : (oneUpdate.run (untouched refusingCommit)).1 = .error taken := rfl
    obtain ⟨hrun, hsettled⟩ := hserves.of_lone
    rw [hresult] at hrun hsettled
    rw [hsettled.isOpen_eq] at hsettled
    exact ⟨hrun, rfl, hsettled⟩
  · have hserves : (lone accepting).Serves
        (Transaction.live [.execute "UPDATE t SET n = 1" []] .commit) updateCommitted
        fun _ => Transaction.Finished .commit :=
      (success_means_committed (lone accepting)).2.2.2.1 _ _
    have hresult : (updateCommitted.run (untouched accepting)).1 = .ok () := rfl
    obtain ⟨hrun, -⟩ := hserves.of_lone
    rw [hresult] at hrun
    exact ⟨hrun, rfl⟩
  · have hwaits := (success_means_committed (lone accepting)).2.2.2.2.2
      { connection :=
          { backend := ⟨{ replies := [] }, []⟩, settings := {}, inTransaction := true } }
    exact ⟨_, rfl, hwaits rfl⟩

end Manager

end SqlAccess
