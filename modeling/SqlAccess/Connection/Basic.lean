import SqlAccess.Binder
import SqlAccess.Connection.Backend
import SqlAccess.Executor
import SqlAccess.Monitor.Basic

/-!
# Connections

A connection checks the parameters of each statement, runs it within the limit of time, and tells
the monitor about it. It knows whether it is inside a transaction that it opened, and refuses to
open another one. After a failed rollback its backend is let go, since nobody knows what the server
still holds; the same happens to a connection that is given back inside a transaction.
-/

namespace SqlAccess

/-- What all connections of a pool have in common. -/
structure Settings where
  binder : Binder := ⟨false⟩
  /-- Whether every statement is reported as an event, too. -/
  debug : Bool := false
  statementTimeout : Option Calendar.Duration := none
  maxBlobBytes : Nat := 1048576
  /-- The most bytes of a statement's text in an event. -/
  maxLogSqlBytes : Nat := 200

/-- A connection, on a backend. -/
structure Connection (β : Type) where
  backend : β
  settings : Settings
  inTransaction : Bool := false
  /-- When the backend was opened, in nanoseconds on the clock of its pool. -/
  openedAt : Nat := 0

/-- A connection at work, with those who are told about it. -/
structure Session (β : Type) where
  connection : Connection β
  monitor : Monitor := .silent
  events : List Event := []

/-- The text of a dialect in summaries. -/
def Dialect.label : Dialect → String
  | .mysql => "MySql"
  | .postgres => "Postgres"

variable {β α : Type} [Backend β]

/-- What a failed statement is told as. -/
def Outcome.ofDbError : DbError → Outcome
  | .timeout limit => .ofError ("timeout after " ++ limit.text)
  | e => .ofError e.message

namespace Connection

/-- The dialect of a connection. -/
def dialect (c : Connection β) : Dialect := Backend.dialect c.backend

/-- A short text about a connection. -/
def summary (c : Connection β) : String :=
  "Connection \x7b dialect: " ++ c.dialect.label ++ ", in_transaction: " ++
    (if c.inTransaction then "true" else "false") ++ " \x7d"

/-- The event about a connection that is given back inside a transaction. -/
def openTransaction : Event :=
  .ofMessage .warn "connection released with an open transaction; closing it" []

/-- Gives a connection back: its backend, if others may use it, and what is reported. -/
def giveBack (c : Connection β) : Option β × List Event :=
  if c.inTransaction then (none, [openTransaction])
  else if Backend.isHeld c.backend then (some c.backend, [])
  else (none, [])

end Connection

namespace Session

/-- The dialect of a session. -/
def dialect (s : Session β) : Dialect := s.connection.dialect

/-- Reports events. -/
def report (events : List Event) (s : Session β) : Session β :=
  { s with events := s.events ++ events }

/-- Tells the monitor. -/
def tell (n : Notice) (s : Session β) : Session β :=
  let (monitor, events) := s.monitor.notify n
  report events { s with monitor }

/-- Changes the backend. -/
def mapBackend (f : β → β) (s : Session β) : Session β :=
  { s with connection := { s.connection with backend := f s.connection.backend } }

/-- Sets whether a transaction is open. -/
def setInTransaction (b : Bool) (s : Session β) : Session β :=
  { s with connection := { s.connection with inTransaction := b } }

/-- An action of the backend; what was reported meanwhile is passed on. -/
def onBackend (a : Action β α) : Action (Session β) α := fun s =>
  let (r, b) := a.run s.connection.backend
  (r, report (Backend.events b) (s.mapBackend fun _ => b))

/-- The event about a finished statement. -/
def executed (settings : Settings) (c : StatementContext) (elapsed : Calendar.Duration)
    (o : Outcome) : Event :=
  { level := .debug
    aboutStatement := true
    fields :=
      [("sql", Text.truncate c.sql settings.maxLogSqlBytes), ("params", toString c.parameterCount),
        ("elapsed", elapsed.text), ("rows", toString o.size.toNat),
        ("ok", if o.isError then "false" else "true"), ("message", "statement executed")] }

/-- Tells how a statement ended. -/
def finish (c : StatementContext) (o : Outcome) (s : Session β) : Session β :=
  let elapsed := Backend.elapsed s.connection.backend
  let s := s.tell (.finished c elapsed o)
  if s.connection.settings.debug then report [executed s.connection.settings c elapsed o] s else s

/-- The context of a statement of a session. -/
def context (sql : String) (parameterCount : Nat) (s : Session β) : StatementContext :=
  .ofSql sql parameterCount s.dialect.name

/-- Cancels a statement that ran out of time. -/
def cancelTimeout (r : Except DbError α) (s : Session β) : Session β :=
  match r with
  | .error (.timeout _) => s.mapBackend Backend.cancel
  | _ => s

/-- The outcome of an action that ended with a result or an error. -/
def outcomeOf (describe : α → Outcome) : Except DbError α → Outcome
  | .ok a => describe a
  | .error e => .ofDbError e

/-- Runs a statement between its announcement and the report about its end. -/
def runStatement (sql : String) (values : List Value) (describe : α → Outcome) (a : Action β α) :
    Action (Session β) α := do
  let c ← Action.look (context sql values.length)
  Action.change (tell (.started c))
  let r ← (onBackend a).attempt
  Action.change (cancelTimeout r)
  Action.change (finish c (outcomeOf describe r))
  Action.ofExcept r

/-- The parameters of a statement, checked; what the check reports is passed on. -/
def bind (values : List Value) : Action (Session β) (List Value) := fun s =>
  let (events, r) := s.connection.settings.binder.bind values
  (r.map Bound.values, s.report events)

/-- Runs a statement and answers how many rows it changed. -/
def execute (sql : String) (values : List Value) : Action (Session β) UInt64 := do
  let bound ← bind values
  let limit ← Action.look fun s => s.connection.settings.statementTimeout
  runStatement sql bound .affected (Backend.execute limit sql bound)

/-- Runs a query and reads its rows. -/
def query (sql : String) (values : List Value) : Action (Session β) RecordSet := do
  let bound ← bind values
  let limit ← Action.look fun s => s.connection.settings.statementTimeout
  let maxBlob ← Action.look fun s => s.connection.settings.maxBlobBytes
  runStatement sql bound (fun rows => .rows rows.size) (Backend.query limit maxBlob sql bound)

/-- Runs a statement that controls transactions. It is not announced, only its end is told. -/
def control (sql : String) : Action (Session β) Unit := do
  let c ← Action.look (context sql 0)
  let r ← (onBackend (Backend.control sql)).attempt
  Action.change (finish c (outcomeOf (fun _ => .affected 0) r))
  Action.ofExcept r

/-- The id in the first cell of a set. -/
def idOf (rows : RecordSet) : Except DbError UInt64 :=
  match (rows.get? 0).bind (Row.cellAt · 0) with
  | none => .error (.notFound "no id generated on this connection")
  | some v =>
    let id : Option UInt64 := match v with
      | .decimal d => d.toUInt64?
      | v => v.asInt64.bind fun n => if n < 0 then none else some n.toUInt64
    id.elim (.error (.decode "last_insert_id" ("unexpected id value " ++ v.raw))) .ok

/-- The id that the last insert on this connection generated. It is asked for unless the backend has
been told it. -/
def lastInsertId : Action (Session β) UInt64 := do
  match ← Action.look fun s => Backend.generatedId s.connection.backend with
  | some id => pure id
  | none =>
    let d ← Action.look dialect
    let rows ← query d.lastInsertIdQuery []
    Action.ofExcept (idOf rows)

/-- Opens a transaction, unless one is open. -/
def begin : Action (Session β) Unit := do
  if ← Action.look fun s => s.connection.inTransaction then
    Action.fail (.validation "a transaction is already open on this connection")
  else
    control "BEGIN"
    Action.change (setInTransaction true)

/-- Commits; after a failure the transaction counts as open still. -/
def commit : Action (Session β) Unit := do
  control "COMMIT"
  Action.change (setInTransaction false)

/-- Rolls back; after a failure the backend is let go. -/
def rollback : Action (Session β) Unit := do
  let r ← (control "ROLLBACK").attempt
  Action.change (setInTransaction false)
  match r with
  | .ok _ => pure ()
  | .error e =>
    Action.change (mapBackend Backend.letGo)
    Action.fail e

instance : Executor (Session β) where
  dialect := dialect
  execute := execute
  query := query
  lastInsertId := lastInsertId
  begin := begin
  commit := commit
  rollback := rollback
  report e := report [e]

end Session

end SqlAccess
