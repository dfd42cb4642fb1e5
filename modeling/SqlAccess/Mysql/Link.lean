import SqlAccess.Action
import SqlAccess.Mysql.Codec
import SqlAccess.Record

/-!
# Queries on a MySQL connection

A query without parameters is sent as it stands, and its cells come back as text. A query with
parameters is prepared, its values go out in their wire forms, and its cells come back in binary
form. Either way every cell is read by the kind of its column, and the first one that cannot be read
decides. A link that was let go asks nothing.
-/

namespace SqlAccess

/-- A column of an answer: its name and its type, which is one that MySQL knows. -/
structure MysqlColumn where
  name : String
  typeNumber : Nat
  charset : Nat
  known : (Mysql.columnKind typeNumber charset).isSome

/-- The kind of a column. -/
def MysqlColumn.kind (c : MysqlColumn) : ColumnKind :=
  (Mysql.columnKind c.typeNumber c.charset).get c.known

/-- The answer to a query. -/
structure MysqlAnswer where
  columns : List MysqlColumn
  rows : List (List MysqlValue)

/-- A server as it is reached on one connection. -/
class MysqlServer (σ : Type) where
  /-- Runs a statement as it stands. -/
  ask : String → Action σ MysqlAnswer
  /-- Prepares a statement and runs it with parameters. -/
  askPrepared : String → List MysqlValue → Action σ MysqlAnswer

/-- The near end of a connection to a server. -/
structure MysqlLink (σ : Type) where
  server : σ
  /-- Whether the link has not been let go. -/
  isHeld : Bool := true
  /-- What was reported while the last query was read. -/
  events : List Event := []

namespace Mysql

/-- The values of the cells of a row, and what was reported on the way; a missing cell is NULL. -/
def decodeCells (maxBlob : Nat) : List MysqlColumn → List MysqlValue →
    List Event × Except DbError (List (Option Value))
  | [], _ => ([], .ok [])
  | c :: columns, cells =>
    match decode c.name c.kind maxBlob (cells.head?.getD .null) with
    | .error e => ([], .error e)
    | .ok (v, events) =>
      let (more, rest) := decodeCells maxBlob columns cells.tail
      (events ++ more, rest.map (v :: ·))

/-- The values of all rows, and what was reported on the way. -/
def decodeRows (maxBlob : Nat) (columns : List MysqlColumn) : List (List MysqlValue) →
    List Event × Except DbError (List (List (Option Value)))
  | [] => ([], .ok [])
  | row :: rows =>
    match decodeCells maxBlob columns row with
    | (events, .error e) => (events, .error e)
    | (events, .ok cells) =>
      let (more, rest) := decodeRows maxBlob columns rows
      (events ++ more, rest.map (cells :: ·))

end Mysql

namespace MysqlLink

variable {σ : Type} [MysqlServer σ]

/-- The error of a link that was let go. -/
def released : DbError := .connection "connection already released"

/-- Asks the server of a link for rows; a query with values is prepared. -/
def ask (sql : String) (values : List Value) : Action σ MysqlAnswer :=
  if values.isEmpty then MysqlServer.ask sql
  else MysqlServer.askPrepared sql (values.map Mysql.encode)

/-- Asks the server behind a link, if it is held. -/
def reach {α : Type} (a : Action σ α) : Action (MysqlLink σ) α := fun l =>
  if l.isHeld then a.zoom server (fun s l => { l with server := s }) l
  else (.error released, l)

/-- Runs a query and reads its rows; binary cells are cut to a number of bytes. -/
def query (maxBlob : Nat) (sql : String) (values : List Value) :
    Action (MysqlLink σ) RecordSet := do
  let found ← reach (ask sql values)
  let (events, rows) := Mysql.decodeRows maxBlob found.columns found.rows
  Action.change fun l => { l with events }
  let rows ← Action.ofExcept rows
  pure (.ofCells (found.columns.map MysqlColumn.name) rows)

/-- Lets a link go. -/
def letGo (l : MysqlLink σ) : MysqlLink σ := { l with isHeld := false }

end MysqlLink

end SqlAccess
