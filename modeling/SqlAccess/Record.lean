import SqlAccess.Error
import SqlAccess.Value

/-!
# Rows and sets of rows

A set of rows is read as a whole: every row is as wide as the list of columns, and a missing cell
is NULL. A set has a cursor, which starts before the first row, and a total, which is the number of
rows unless it was given. A row answers for a column by the first one of its name, and each typed
reader refuses a cell it would have to change.
-/

namespace SqlAccess

open Number Calendar

/-- A row: the names of its columns and its cells, where `none` is NULL. -/
structure Row where
  columns : List String
  cells : List (Option Value)
  deriving Inhabited

namespace Row

/-- The cell at a position, unless it is NULL. -/
def cellAt (r : Row) (index : Nat) : Option Value := r.cells[index]?.join

/-- The cell of the first column with a name; NULL is no value. -/
def get (r : Row) (column : String) : Except DbError (Option Value) :=
  match r.columns.findIdx? (· = column) with
  | none => .error (.decode column "no such column")
  | some i => .ok (r.cellAt i)

/-- Whether a column is missing or its cell is NULL. -/
def isNull (r : Row) (column : String) : Bool :=
  match r.get column with
  | .ok (some _) => false
  | _ => true

/-- A cell as a member of a type, by a reader that refuses what it does not accept. -/
def read {α : Type} (r : Row) (column expected : String) (reader : Value → Option α) :
    Except DbError (Option α) :=
  match r.get column with
  | .error e => .error e
  | .ok none => .ok none
  | .ok (some v) =>
    match reader v with
    | some a => .ok (some a)
    | none => .error (.decode column ("expected " ++ expected ++ ", got " ++ v.typeName))

/-- A cell as text. -/
def getText (r : Row) (column : String) : Except DbError (Option String) :=
  r.read column "string" fun
    | .text s => some s
    | .other s => some s
    | _ => none

/-- A cell as a 32-bit integer. -/
def getInt32 (r : Row) (column : String) : Except DbError (Option Int32) :=
  r.read column "int" fun v => v.asInt64.bind fun n => int32? n.toInt

/-- A cell as a 64-bit integer. -/
def getInt64 (r : Row) (column : String) : Except DbError (Option Int64) :=
  r.read column "integer" Value.asInt64

/-- A cell as a floating-point number. -/
def getDouble (r : Row) (column : String) : Except DbError (Option Double) :=
  r.read column "number" Value.asDouble

/-- A cell as a decimal number. -/
def getDecimal (r : Row) (column : String) : Except DbError (Option Decimal) :=
  r.read column "decimal" fun
    | .decimal d => some d
    | v => v.asInt64.map Decimal.ofInt64

/-- A cell as a truth value; integers are true unless they are zero. -/
def getBool (r : Row) (column : String) : Except DbError (Option Bool) :=
  r.read column "bool" fun
    | .bool b => some b
    | v => v.asInt64.map (· ≠ 0)

/-- A cell as a timestamp. -/
def getTimestamp (r : Row) (column : String) : Except DbError (Option Timestamp) :=
  r.read column "timestamp" Value.asTimestamp

/-- A cell as bytes; text is its UTF-8. -/
def getBytes (r : Row) (column : String) : Except DbError (Option (List UInt8)) :=
  r.read column "bytes" fun
    | .bytes bs => some bs
    | .text s => some (Text.utf8 s)
    | _ => none

/-- What a reader found, where NULL is not allowed. -/
def require {α : Type} (column : String) (found : Except DbError (Option α)) : Except DbError α :=
  match found with
  | .error e => .error e
  | .ok (some a) => .ok a
  | .ok none => .error (.decode column "unexpected NULL")

/-- A cell as text that is not NULL. -/
def requireText (r : Row) (column : String) : Except DbError String :=
  require column (r.getText column)

/-- A cell as a 64-bit integer that is not NULL. -/
def requireInt64 (r : Row) (column : String) : Except DbError Int64 :=
  require column (r.getInt64 column)

/-- The columns with their cells. -/
def pairs (r : Row) : List (String × Option Value) := r.columns.zip r.cells

/-- The JSON view of a row: an object with a member for each name. -/
def toJson (r : Row) : Json :=
  .ofMembers (r.pairs.map fun p => (p.1, (p.2.map Value.toJson).getD .null))

end Row

/-- Rows with a cursor and a total. -/
structure RecordSet where
  columns : List String
  rows : List Row
  /-- The index of the row at the cursor; before the first row there is none. -/
  cursor : Option Nat := none
  total? : Option UInt64 := none
  deriving Inhabited

namespace RecordSet

/-- Cells cut or filled up with NULL to a width. -/
def fit : Nat → List (Option Value) → List (Option Value)
  | 0, _ => []
  | n + 1, [] => none :: fit n []
  | n + 1, c :: rest => c :: fit n rest

/-- The set of rows with given columns and cells. -/
def ofCells (columns : List String) (rows : List (List (Option Value))) : RecordSet :=
  { columns, rows := rows.map fun cells => ⟨columns, fit columns.length cells⟩ }

/-- The set without columns and rows. -/
def empty : RecordSet := ofCells [] []

/-- The number of rows. -/
def size (s : RecordSet) : Nat := s.rows.length

/-- Whether there are no rows. -/
def isEmpty (s : RecordSet) : Bool := s.rows.isEmpty

/-- The index that the cursor would move forward to. -/
def following (s : RecordSet) : Nat :=
  match s.cursor with
  | none => 0
  | some i => i + 1

/-- Moves the cursor forward, if there is a row. -/
def next (s : RecordSet) : Bool × RecordSet :=
  if s.following < s.size then (true, { s with cursor := some s.following }) else (false, s)

/-- Moves the cursor back, if it is on a row other than the first. -/
def prev (s : RecordSet) : Bool × RecordSet :=
  match s.cursor with
  | some (i + 1) => (true, { s with cursor := some i })
  | _ => (false, s)

/-- Puts the cursor before the first row. -/
def reset (s : RecordSet) : RecordSet := { s with cursor := none }

/-- The index at the cursor, with -1 before the first row. -/
def position (s : RecordSet) : Int :=
  match s.cursor with
  | none => -1
  | some i => i

/-- The row at the cursor. -/
def current (s : RecordSet) : Option Row := s.cursor.bind fun i => s.rows[i]?

/-- The row at an index. -/
def get? (s : RecordSet) (index : Nat) : Option Row := s.rows[index]?

/-- The total: the one given, or the number of rows. -/
def total (s : RecordSet) : UInt64 := s.total?.getD (.ofNat s.size)

/-- Gives a total, or takes it back. -/
def setTotal (s : RecordSet) (total : Option UInt64) : RecordSet := { s with total? := total }

/-- Reads every row; the first row that is refused decides. -/
def mapRows {α : Type} (s : RecordSet) (reader : Row → Except DbError α) :
    Except DbError (List α) :=
  s.rows.mapM reader

/-- The JSON view of a set: an array of its rows. -/
def toJson (s : RecordSet) : Json := .array (s.rows.map Row.toJson)

end RecordSet

end SqlAccess
