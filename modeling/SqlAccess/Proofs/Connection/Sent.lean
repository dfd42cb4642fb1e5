import SqlAccess.Proofs.Connection.Calls
import SqlAccess.Proofs.UnitOfWork.Exchange

/-!
# What a connection sends

A backend that is recorded keeps a log of what it was asked for, each with the answer it gave. Of
the work on a session it is said what is sent meanwhile and what comes of it: a statement is sent
with its parameters as the binder gives them, one under construction is written first, and the id of
an insert is asked for unless the backend knows it. Nothing is sent for what is refused on the way.
-/

namespace SqlAccess

/-- What a backend is asked for, with its answer. -/
inductive Sent
  | control (sql : String) (answer : Except DbError Unit)
  | execute (sql : String) (values : List Value) (answer : Except DbError UInt64)
  | query (sql : String) (values : List Value) (answer : Except DbError RecordSet)

/-- Whether a statement is one that controls transactions. -/
def Sent.isControl : Sent → Bool
  | .control _ _ => true
  | _ => false

instance {β : Type} [Backend β] : Backend (Recorded β Sent) where
  dialect b := Backend.dialect b.inner
  execute limit sql values :=
    Recorded.note (.execute sql values) (Backend.execute limit sql values)
  query limit maxBlob sql values :=
    Recorded.note (.query sql values) (Backend.query limit maxBlob sql values)
  control sql := Recorded.note (.control sql) (Backend.control sql)
  generatedId b := Backend.generatedId b.inner
  cancel b := { b with inner := Backend.cancel b.inner }
  letGo b := { b with inner := Backend.letGo b.inner }
  isHeld b := Backend.isHeld b.inner
  isOpen b := Backend.isOpen b.inner
  elapsed b := Backend.elapsed b.inner
  events b := Backend.events b.inner

/-- A statement is sent with its parameters as the binder gives them, unless they are refused. -/
inductive Executes (binder : Binder) (sql : String) (values : List Value) :
    List Sent → Except DbError UInt64 → Prop
  | refused {e : DbError} (h : (binder.bind values).2 = .error e) :
    Executes binder sql values [] (.error e)
  | sent {b : Bound} (h : (binder.bind values).2 = .ok b) (answer : Except DbError UInt64) :
    Executes binder sql values [.execute sql b.values answer] answer

/-- A query is sent with its parameters as the binder gives them, unless they are refused. -/
inductive Queries (binder : Binder) (sql : String) (values : List Value) :
    List Sent → Except DbError RecordSet → Prop
  | refused {e : DbError} (h : (binder.bind values).2 = .error e) :
    Queries binder sql values [] (.error e)
  | sent {b : Bound} (h : (binder.bind values).2 = .ok b) (answer : Except DbError RecordSet) :
    Queries binder sql values [.query sql b.values answer] answer

/-- A statement under construction is written for a dialect, and what is written is done; nothing is
sent for one that cannot be written. -/
inductive Written (d : Dialect) {α γ : Type} [Statement α] (q : α)
    (does : Prepared → List Sent → Except DbError γ → Prop) :
    List Sent → Except DbError γ → Prop
  | refused {e : DbError} (h : Statement.prepareFor d q = .error e) :
    Written d q does [] (.error e)
  | prepared {p : Prepared} {sent : List Sent} {r : Except DbError γ}
    (h : Statement.prepareFor d q = .ok p) (hdoes : does p sent r) : Written d q does sent r

/-- A statement under construction that changes rows is written and executed. -/
def Writes (d : Dialect) {α : Type} [Statement α] (binder : Binder) (q : α) :
    List Sent → Except DbError UInt64 → Prop :=
  Written d q fun p => Executes binder p.sql p.parameters.values

/-- A statement under construction is written and its rows are read. -/
def Reads (d : Dialect) {α : Type} [Statement α] (binder : Binder) (q : α) :
    List Sent → Except DbError RecordSet → Prop :=
  Written d q fun p => Queries binder p.sql p.parameters.values

section Generated

variable {β : Type} [Backend β]

/-- The id that an insert generated is known to the backend of a session, or it is asked for. -/
inductive Identifies (s : Session (Recorded β Sent)) : List Sent → Except DbError UInt64 → Prop
  | known {id : UInt64} (h : Backend.generatedId s.connection.backend = some id) :
    Identifies s [] (.ok id)
  | asked (h : Backend.generatedId s.connection.backend = none)
    (answer : Except DbError RecordSet) :
    Identifies s [.query s.dialect.lastInsertIdQuery [] answer] (answer.bind Session.idOf)

/-- A row is inserted on a session; only after that its id is found, on the session as the insert
has left it. -/
inductive Inserts (s : Session (Recorded β Sent)) (binder : Binder) (q : Insert) :
    List Sent → Except DbError UInt64 → Prop
  | failed {sent : List Sent} {e : DbError} (h : Writes s.dialect binder q sent (.error e)) :
    Inserts s binder q sent (.error e)
  | inserted {sent more : List Sent} {n : UInt64} {r : Except DbError UInt64}
    (h : Writes s.dialect binder q sent (.ok n))
    (hid : Identifies ((Mutation.execute q).run s).2 more r) :
    Inserts s binder q (sent ++ more) r

end Generated

namespace Session

variable {α γ β : Type}

/-- What has been sent on the connection of a session. -/
def log (s : Session (Recorded β Sent)) : List Sent := s.connection.backend.log

/-- From one state of a session to a later one something is sent, and the settings stay. -/
structure Sends (s : Session (Recorded β Sent)) (sent : List Sent) (t : Session (Recorded β Sent)) :
    Prop where
  log_eq : t.log = s.log ++ sent
  settings_eq : t.connection.settings = s.connection.settings

/-- Nothing is sent while a session stays as it is. -/
theorem sends_nil (s : Session (Recorded β Sent)) : s.Sends [] s := ⟨(List.append_nil _).symm, rfl⟩

/-- What is sent on the way to a state and what is sent from there on is sent on the whole way. -/
theorem Sends.trans {s t u : Session (Recorded β Sent)} {sent more : List Sent}
    (h : s.Sends sent t) (h' : t.Sends more u) : s.Sends (sent ++ more) u where
  log_eq := by rw [h'.log_eq, h.log_eq, List.append_assoc]
  settings_eq := h'.settings_eq.trans h.settings_eq

/-- What a call sends is what it adds to the log of the backend. -/
theorem sends_of_connection {s t : Session (Recorded β Sent)} {sent : List Sent}
    {b : Recorded β Sent} {isOpen : Bool}
    (h : t.connection = { s.connection with backend := b, inTransaction := isOpen })
    (hlog : b.log = s.log ++ sent) : s.Sends sent t where
  log_eq := by rw [log, h, hlog]
  settings_eq := by rw [h]

/-- Something is sent during a piece of work, and it holds of that and of the result; whether a
transaction is open stays as it is. -/
def Does (spec : List Sent → Except DbError α → Prop) (work : Action (Session (Recorded β Sent)) α)
    (s : Session (Recorded β Sent)) : Prop :=
  ∃ sent, spec sent (work.run s).1 ∧ s.Sends sent (work.run s).2 ∧
    (work.run s).2.connection.inTransaction = s.connection.inTransaction

/-- Work that leaves the connection as it is sends nothing. -/
theorem does_of_same {spec : List Sent → Except DbError α → Prop}
    {work : Action (Session (Recorded β Sent)) α} {s t : Session (Recorded β Sent)}
    {r : Except DbError α} (hrun : work.run s = (r, t)) (hsame : t.connection = s.connection)
    (h : spec [] r) : Does spec work s := by
  refine ⟨[], ?_⟩
  rw [hrun]
  refine ⟨h, ⟨?_, ?_⟩, ?_⟩
  · rw [log, log, hsame, List.append_nil]
  · rw [hsame]
  · rw [hsame]

/-- What is sent during two pieces of work is what is sent during the first and then, if it
succeeds, during the second, which starts where the first has ended. -/
theorem Does.bind {P : List Sent → Except DbError α → Prop}
    {Q : α → List Sent → Except DbError γ → Prop} {R : List Sent → Except DbError γ → Prop}
    {a : Action (Session (Recorded β Sent)) α} {f : α → Action (Session (Recorded β Sent)) γ}
    {s : Session (Recorded β Sent)} (ha : Does P a s)
    (hf : ∀ x, Does (Q x) (f x) (a.run s).2)
    (herror : ∀ sent e, P sent (.error e) → R sent (.error e))
    (hok : ∀ sent x more r, P sent (.ok x) → Q x more r → R (sent ++ more) r) :
    Does R (a >>= f) s := by
  obtain ⟨sent, hP, hsends, hflag⟩ := ha
  rcases hx : a.run s with ⟨e | x, t⟩
  · rw [hx] at hP hsends hflag
    refine ⟨sent, ?_⟩
    rw [Action.run_bind_error hx]
    exact ⟨herror sent e hP, hsends, hflag⟩
  · have hfx := hf x
    rw [hx] at hP hsends hflag hfx
    obtain ⟨more, hQ, hmore, hstill⟩ := hfx
    refine ⟨sent ++ more, ?_⟩
    rw [Action.run_bind_ok hx]
    exact ⟨hok sent x more _ hP hQ, hsends.trans hmore, hstill.trans hflag⟩

variable [Backend β]

/-- A backend that gives up a statement has sent what it had sent. -/
theorem log_afterStatement (r : Except DbError α) (b : Recorded β Sent) :
    (afterStatement (r, b)).log = b.log := by
  rcases r with e | a
  · cases e <;> rfl
  · rfl

/-- A statement with parameters sends nothing if they are refused, and else what the backend logs.
-/
theorem does_of_answers {spec : List Sent → Except DbError α → Prop}
    {work : Action (Session (Recorded β Sent)) α} {s : Session (Recorded β Sent)}
    {values : List Value} {answer : Bound → Except DbError α × Recorded β Sent}
    (h : Answers s values answer (work.run s))
    (hrefused : ∀ e, s.bound values = .error e → spec [] (.error e))
    (hanswered : ∀ b, s.bound values = .ok b →
      ∃ x, spec [x] (answer b).1 ∧ (answer b).2.log = s.log ++ [x]) : Does spec work s := by
  unfold Does
  generalize work.run s = out at h ⊢
  cases h with
  | @refused e t hbound hsame =>
    refine ⟨[], hrefused e hbound, sends_of_connection hsame ?_, by rw [hsame]⟩
    exact (List.append_nil _).symm
  | @answered b t hbound hconnection =>
    obtain ⟨x, hspec, hlog⟩ := hanswered b hbound
    refine ⟨[x], hspec, sends_of_connection hconnection ?_, by rw [hconnection]⟩
    exact (log_afterStatement _ _).trans hlog

/-- A statement is sent once, as its parameters are bound, unless they are refused. -/
theorem does_execute (sql : String) (values : List Value) (s : Session (Recorded β Sent)) :
    Does (Executes s.connection.settings.binder sql values) (execute sql values) s :=
  does_of_answers (answers_execute sql values s) (fun _ h => .refused h)
    fun _ h => ⟨_, .sent h _, rfl⟩

/-- A query is sent once, as its parameters are bound, unless they are refused. -/
theorem does_query (sql : String) (values : List Value) (s : Session (Recorded β Sent)) :
    Does (Queries s.connection.settings.binder sql values) (query sql values) s :=
  does_of_answers (answers_query sql values s) (fun _ h => .refused h)
    fun _ h => ⟨_, .sent h _, rfl⟩

/-- The id of an insert is asked for unless the backend knows it. -/
theorem does_lastInsertId (s : Session (Recorded β Sent)) :
    Does (Identifies s) lastInsertId s := by
  rcases hid : Backend.generatedId s.connection.backend.inner with _ | id
  · obtain ⟨sent, hqueries, hsends, hflag⟩ := does_query s.dialect.lastInsertIdQuery [] s
    have hrun := run_lastInsertId_asked (s := s) hid
    unfold Does
    rw [hrun]
    refine ⟨sent, ?_, hsends, hflag⟩
    generalize ((query s.dialect.lastInsertIdQuery []).run s).1 = r at hqueries
    cases hqueries with
    | refused h => exact absurd (h.symm.trans (bound_nil s)) nofun
    | sent h =>
      obtain rfl := Except.ok.inj (h.symm.trans (bound_nil s))
      exact .asked hid _
  · exact does_of_same (run_lastInsertId_known (s := s) hid) rfl (.known hid)

/-- What a statement under construction does is what the one written for the dialect of the session
does. -/
theorem does_written [Statement α] (q : α)
    {does : Prepared → List Sent → Except DbError γ → Prop}
    {act : Prepared → Action (Session (Recorded β Sent)) γ} {s : Session (Recorded β Sent)}
    (hact : ∀ p, Does (does p) (act p) s) :
    Does (Written s.dialect q does) (do
      let d ← Action.look Executor.dialect
      let p ← Action.ofExcept (Statement.prepareFor d q)
      act p) s := by
  unfold Does
  rw [Action.run_look_bind _ rfl]
  rcases hp : Statement.prepareFor (Executor.dialect s) q with e | p
  · rw [Action.run_bind_error (Action.run_ofExcept _ s)]
    exact ⟨[], .refused hp, sends_nil s, rfl⟩
  · rw [Action.run_bind_ok (Action.run_ofExcept _ s)]
    obtain ⟨sent, hdoes, hrest⟩ := hact p
    exact ⟨sent, .prepared hp hdoes, hrest⟩

/-- A statement under construction that changes rows is sent as it is written, if at all. -/
theorem does_mutation [Mutation α] (q : α) (s : Session (Recorded β Sent)) :
    Does (Writes s.dialect s.connection.settings.binder q) (Mutation.execute q) s :=
  does_written q fun p => does_execute p.sql p.parameters.values s

/-- A statement under construction whose rows are read is sent as it is written, if at all. -/
theorem does_fetch [Statement α] (q : α) (s : Session (Recorded β Sent)) :
    Does (Reads s.dialect s.connection.settings.binder q) (Statement.query q) s :=
  does_written q fun p => does_query p.sql p.parameters.values s

/-- The id of an insert is looked for only if the insert succeeds, and where it has left off. -/
theorem does_insertLastId (q : Insert) (s : Session (Recorded β Sent)) :
    Does (Inserts s s.connection.settings.binder q) q.insertLastId s :=
  (does_mutation q s).bind (fun _ => does_lastInsertId _) (fun _ _ h => .failed h)
    fun _ _ _ _ h hid => .inserted h hid

end Session

end SqlAccess
