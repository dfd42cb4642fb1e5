import SqlAccess.Calendar.Duration
import SqlAccess.Connection.Backend
import SqlAccess.Postgres.Decode

/-!
# Links to a PostgreSQL server

A link is the near end of a connection together with all that the server is going to say on it. Each
request is recorded and answered by the next reply. A statement is prepared first, which tells the
types of its parameters and columns; those with parameters stay prepared. A link whose server
hangs up is closed, and a link that was let go is of no more use: it sends nothing.
-/

namespace SqlAccess

/-- What a server is asked on a connection. -/
inductive PgRequest
  /-- Runs a statement without parameters and rows. -/
  | control (sql : String)
  | prepare (sql : String)
  | run (sql : String) (parameters : List (Option (List UInt8)))
  /-- Asks for the end of the statement that is running. -/
  | cancel
  deriving Repr, DecidableEq

/-- An error that a server reports. -/
structure ServerError where
  code : String
  message : String
  constraint : Option String := none
  deriving Repr, DecidableEq

/-- The types of a prepared statement. -/
structure Description where
  parameters : List PgType
  columns : List PgColumn
  deriving Repr, DecidableEq

/-- What a server says to a request. -/
inductive PgReply
  | described (d : Description)
  | completed (affected : UInt64)
  | rows (cells : List (List (Option (List UInt8))))
  | refused (e : ServerError)
  | hungUp
  deriving Repr, DecidableEq

/-- The near end of a connection and what the server will say. -/
structure PgLink where
  /-- The replies to come, each with the nanoseconds until it arrives. -/
  replies : List (Nat × PgReply)
  requests : List PgRequest := []
  /-- The statements that stay prepared. -/
  prepared : List (String × Description) := []
  isOpen : Bool := true
  /-- Whether the link has not been let go. -/
  isHeld : Bool := true
  /-- The nanoseconds that the last statement took so far. -/
  spent : Nat := 0
  /-- What was reported while the last statement was read. -/
  events : List Event := []

/-- The error that a server's report becomes; a broken constraint is named. -/
def ServerError.toDbError (e : ServerError) : DbError :=
  .statement (.ofState e.code) ("[" ++ e.code ++ "] " ++
    (e.constraint.map fun c => c ++ ": ").getD "" ++ e.message)

namespace PgLink

/-- An error found on this side, with its kind taken from its words. -/
def localError (message : String) : DbError := .statement (.ofMessage message) message

/-- The error of a closed link. -/
def closed : DbError := .connection "connection closed"

/-- The error of a link that was let go. -/
def released : DbError := .connection "connection already released"

/-- The error of a reply that does not belong to its request. -/
def unexpected : DbError := localError "unexpected message from server"

/-- The link before a new statement. -/
def fresh (l : PgLink) : PgLink := { l with spent := 0, events := [] }

/-- Takes a reply that has arrived. -/
def receive (reply : PgReply) : Action PgLink PgReply := fun l =>
  match reply with
  | .refused e => (.error e.toDbError, l)
  | .hungUp => (.error closed, { l with isOpen := false })
  | reply => (.ok reply, l)

/-- Sends a request and waits for its reply, within the limit of the statement. -/
def ask (limit : Option Calendar.Duration) (r : PgRequest) : Action PgLink PgReply := fun l =>
  if !l.isHeld then (.error released, l)
  else if !l.isOpen then (.error closed, l)
  else
    let l := { l with requests := l.requests ++ [r] }
    match l.replies with
    | [] => (.error closed, { l with isOpen := false })
    | (wait, reply) :: rest =>
      let l := { l with replies := rest, spent := l.spent + wait }
      match limit with
      | some d => if d.totalNanos ≤ l.spent then (.error (.timeout d), l) else receive reply l
      | none => receive reply l

/-- Prepares a statement, unless it is prepared already; one to keep stays prepared. -/
def prepare (limit : Option Calendar.Duration) (sql : String) (keep : Bool) :
    Action PgLink Description := do
  match ← Action.look fun l => if keep && l.isHeld then l.prepared.lookup sql else none with
  | some d => pure d
  | none =>
    match ← ask limit (.prepare sql) with
    | .described d =>
      if keep then Action.change fun l => { l with prepared := l.prepared ++ [(sql, d)] }
      pure d
    | _ => Action.fail unexpected

/-- The binary forms of values from a position on; the first that has none decides. -/
def encodeFrom (position : Nat) : List PgType → List Value →
    Except DbError (List (Option (List UInt8)))
  | t :: types, v :: values =>
    match v.encode t with
    | .error _ => .error (localError ("error serializing parameter " ++ toString position))
    | .ok bytes => (encodeFrom (position + 1) types values).map (bytes :: ·)
  | _, _ => .ok []

/-- The binary forms of the values of a statement, one for each of its parameters. -/
def encodeAll (types : List PgType) (values : List Value) :
    Except DbError (List (Option (List UInt8))) :=
  if types.length = values.length then encodeFrom 0 types values
  else .error (localError ("expected " ++ toString types.length ++ " parameters but got " ++
    toString values.length))

/-- Prepares a statement and runs it. -/
def start (limit : Option Calendar.Duration) (sql : String) (values : List Value) :
    Action PgLink (Description × PgReply) := do
  Action.change fresh
  let d ← prepare limit sql !values.isEmpty
  let bytes ← Action.ofExcept (encodeAll d.parameters values)
  let reply ← ask limit (.run sql bytes)
  pure (d, reply)

/-- Runs a statement; rows count as changed. -/
def execute (limit : Option Calendar.Duration) (sql : String) (values : List Value) :
    Action PgLink UInt64 := do
  match ← start limit sql values with
  | (_, .completed n) => pure n
  | (_, .rows cells) => pure (.ofNat cells.length)
  | _ => Action.fail unexpected

/-- The values of the cells of a row, and what was reported on the way. -/
def decodeCells (maxBlob index : Nat) : List PgColumn → List (Option (List UInt8)) →
    List Event × Except DbError (List (Option Value))
  | c :: columns, cell :: cells =>
    match c.decode index maxBlob cell with
    | .error e => ([], .error e)
    | .ok (v, events) =>
      let (more, rest) := decodeCells maxBlob (index + 1) columns cells
      (events ++ more, rest.map (v :: ·))
  | _, _ => ([], .ok [])

/-- The values of all rows, and what was reported on the way. -/
def decodeRows (maxBlob : Nat) (columns : List PgColumn) : List (List (Option (List UInt8))) →
    List Event × Except DbError (List (List (Option Value)))
  | [] => ([], .ok [])
  | row :: rows =>
    match decodeCells maxBlob 0 columns row with
    | (events, .error e) => (events, .error e)
    | (events, .ok cells) =>
      let (more, rest) := decodeRows maxBlob columns rows
      (events ++ more, rest.map (cells :: ·))

/-- Runs a query and reads its rows. -/
def query (limit : Option Calendar.Duration) (maxBlob : Nat) (sql : String) (values : List Value) :
    Action PgLink RecordSet := do
  let (d, reply) ← start limit sql values
  let cells ← match reply with
    | .rows cells => pure cells
    | .completed _ => pure []
    | _ => Action.fail unexpected
  let (events, rows) := decodeRows maxBlob d.columns cells
  Action.change fun l => { l with events }
  let rows ← Action.ofExcept rows
  pure (.ofCells (d.columns.map PgColumn.name) rows)

/-- Runs a statement without parameters and rows. -/
def control (sql : String) : Action PgLink Unit := do
  Action.change fresh
  match ← ask none (.control sql) with
  | .completed _ | .rows _ => pure ()
  | _ => Action.fail unexpected

/-- Asks for the end of the statement that is running. -/
def cancel (l : PgLink) : PgLink :=
  if l.isHeld then { l with requests := l.requests ++ [.cancel] } else l

/-- Lets a link go. -/
def letGo (l : PgLink) : PgLink := { l with isHeld := false, isOpen := false }

instance : Backend PgLink where
  dialect _ := .postgres
  execute := execute
  query := query
  control := control
  generatedId _ := none
  cancel := cancel
  letGo := letGo
  isHeld := isHeld
  isOpen := isOpen
  elapsed l := .ofNanos l.spent
  events := events

end PgLink

end SqlAccess
