import SqlAccess.Connection.Transaction
import SqlAccess.Mysql.Url
import SqlAccess.Pool.Basic
import SqlAccess.Postgres.Target

/-!
# Managers

A manager is built from a configuration and owns the pool of its connections. It hands out
connections and takes them back, and every connection at work reports to the manager's monitor.
-/

namespace SqlAccess

/-- What a manager connects to. -/
inductive Endpoint
  | postgres (t : PgTarget)
  | mysql

namespace Endpoint

/-- The dialect of the servers of an endpoint. -/
def dialect : Endpoint → Dialect
  | .postgres _ => .postgres
  | .mysql => .mysql

/-- The endpoint of a configuration. -/
def ofConfig (c : Config) (password : Option String) : Except DbError Endpoint :=
  match c.driver with
  | .postgres => (PgTarget.ofConfig c password).map .postgres
  | .mysql =>
    if c.url.all Mysql.Url.isValid then .ok .mysql
    else .error (.configuration "invalid MySQL url")

/-- Checks that an endpoint says enough to connect to it. -/
def check : Endpoint → Except DbError Unit
  | .postgres t =>
    if t.isComplete then .ok ()
    else .error (.statement (.ofMessage "invalid configuration") "invalid configuration")
  | .mysql => .ok ()

end Endpoint

/-- The text of a driver in the event about a new pool. -/
def Dialect.driverLabel : Dialect → String
  | .mysql => "Mysql"
  | .postgres => "Postgres"

/-- A source of connections. -/
structure Manager (β : Type) where
  endpoint : Endpoint
  settings : Settings
  pool : Pool β
  monitor : Monitor := .silent
  events : List Event := []

namespace Manager

variable {β α : Type}

/-- How a manager is built, beside its configuration. -/
structure Options where
  decryptor : Decryptor := .refusing
  monitor : Monitor := .silent
  /-- The most bytes of a statement's text in an event. -/
  maxLogSqlBytes : Nat := 200

/-- The event about a new pool. -/
def poolCreated (c : Config) : Event :=
  .ofMessage .debug "connection pool created"
    [("driver", c.driver.driverLabel), ("max_pool_size", toString c.maxPoolSize.toNat)]

/-- The event about a closed pool. -/
def poolClosed : Event := .ofMessage .debug "connection pool closed" []

/-- The settings of the connections of a configuration. -/
def settingsOf (c : Config) (maxLogSqlBytes : Nat) : Settings :=
  { binder := ⟨c.injectionFilter⟩
    debug := c.debug
    statementTimeout := c.statementTimeout
    maxBlobBytes := c.maxBlobBytes.toNat
    maxLogSqlBytes }

/-- The manager of a configuration. No connection is opened yet. -/
def ofConfig (c : Config) (o : Options) (arrivals : List (Except DbError β)) :
    Except DbError (Manager β) := do
  c.validate
  let password ← c.resolvePassword o.decryptor
  let endpoint ← Endpoint.ofConfig c password
  return { endpoint
           settings := settingsOf c o.maxLogSqlBytes
           pool := { capacity := c.maxPoolSize.toNat
                     limits := ⟨c.maxLifetime, c.idleTimeout⟩
                     arrivals }
           monitor := o.monitor
           events := [poolCreated c] }

/-- The dialect of a manager's servers. -/
def dialect (m : Manager β) : Dialect := m.endpoint.dialect

/-- Whether a manager has been closed. -/
def isClosed (m : Manager β) : Bool := m.pool.isClosed

/-- A short text about a manager. -/
def summary (m : Manager β) : String :=
  "ConnectionManager \x7b dialect: " ++ m.dialect.label ++ ", closed: " ++
    (if m.isClosed then "true" else "false") ++ " \x7d"

/-- Reports events. -/
def report (events : List Event) (m : Manager β) : Manager β :=
  { m with events := m.events ++ events }

variable [Backend β]

/-- Closes the pool, unless it is closed already. -/
def close (m : Manager β) : Manager β :=
  if m.isClosed then m else report [poolClosed] { m with pool := m.pool.close }

/-- Hands out a connection. -/
def acquire : Action (Manager β) (Connection β) := fun m =>
  let (r, pool) := (Pool.acquire m.endpoint.check).run m.pool
  (r.map fun p => { backend := p.1, settings := m.settings, openedAt := p.2 }, { m with pool })

/-- Takes a connection back. -/
def giveBack (c : Connection β) (m : Manager β) : Manager β :=
  let (backend, events) := c.giveBack
  report events { m with pool := m.pool.giveBack backend c.openedAt }

/-- An action on a connection: its result or error, and the connection after it. -/
def on (c : Connection β) (work : Action (Session β) α) :
    Action (Manager β) (Except DbError α × Connection β) := fun m =>
  let (r, s) := work.run { connection := c, monitor := m.monitor, events := m.events }
  (.ok (r, s.connection), { m with monitor := s.monitor, events := s.events })

/-- An action on a connection that is taken back afterwards. -/
def finishing (c : Connection β) (work : Action (Session β) α) : Action (Manager β) α := do
  let (r, c) ← on c work
  Action.change (giveBack c)
  Action.ofExcept r

/-- An action on a connection of its own. -/
def withConnection (work : Action (Session β) α) : Action (Manager β) α := do
  finishing (← acquire) work

end Manager

end SqlAccess
