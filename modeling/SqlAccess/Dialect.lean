import SqlAccess.Value

/-!
# Dialects

The two dialects write the same statement differently: placeholders, the escape of text, the form
of a temporal comparison, truth values, byte strings and the clause that cuts a window out of the
rows. `Dialect.literal` writes any value so that it stays inside its place.
-/

namespace SqlAccess

/-- The dialects a statement can be written in. -/
inductive Dialect
  | mysql
  | postgres
  deriving Repr, DecidableEq, Inhabited

/-- A cut out of the rows: skip `offset` of them and keep `limit`. -/
structure Window where
  limit : Option UInt64 := none
  offset : Option UInt64 := none
  deriving Repr, DecidableEq, Inhabited

namespace Dialect

/-- The name of the server a dialect is for. -/
def name : Dialect → String
  | .mysql => "MySQL"
  | .postgres => "PostgreSQL"

/-- The name of a dialect in configurations. -/
def key : Dialect → String
  | .mysql => "mysql"
  | .postgres => "postgres"

/-- The dialect with a name in configurations. -/
def ofKey? (s : String) : Option Dialect :=
  if s = "mysql" then some .mysql else if s = "postgres" then some .postgres else none

/-- The placeholder of the parameter with a position that counts from one. -/
def placeholder (d : Dialect) (position : Nat) : String :=
  match d with
  | .mysql => "?"
  | .postgres => "$" ++ toString position

/-- The escaped form of one character inside a quoted text. -/
def escapeChar (d : Dialect) (c : Char) : List Char :=
  match d with
  | .mysql =>
    if c = '\\' then ['\\', '\\']
    else if c = '\'' then ['\\', '\'']
    else if c.toNat = 0 then ['\\', '0']
    else [c]
  | .postgres => if c = '\'' then ['\'', '\''] else [c]

/-- A text as it stands between quotes. -/
def escape (d : Dialect) (s : String) : String :=
  String.ofList (s.toList.flatMap d.escapeChar)

/-- A text between quotes. -/
def quote (d : Dialect) (s : String) : String :=
  String.ofList ('\'' :: s.toList.flatMap d.escapeChar ++ ['\''])

/-- A column formatted like the compact text of a timestamp. -/
def temporalColumn (d : Dialect) (column : String) : String :=
  match d with
  | .mysql => "DATE_FORMAT(" ++ column ++ ",'%Y%m%d%H%i%s')"
  | .postgres => "to_char(" ++ column ++ ",'YYYYMMDDHH24MISS')"

/-- The clause for a window; an offset alone needs the largest limit in one dialect. -/
def window (d : Dialect) (w : Window) : String :=
  match d, w.limit, w.offset with
  | .mysql, none, none => ""
  | .mysql, some n, some o => " LIMIT " ++ toString o.toNat ++ "," ++ toString n.toNat
  | .mysql, some n, none => " LIMIT " ++ toString n.toNat
  | .mysql, none, some o => " LIMIT " ++ toString o.toNat ++ ",18446744073709551615"
  | .postgres, n, o =>
    (n.map fun n => " LIMIT " ++ toString n.toNat).getD "" ++
      (o.map fun o => " OFFSET " ++ toString o.toNat).getD ""

/-- The literal of a truth value. -/
def boolLiteral (d : Dialect) (b : Bool) : String :=
  match d, b with
  | .mysql, true => "1"
  | .mysql, false => "0"
  | .postgres, true => "TRUE"
  | .postgres, false => "FALSE"

/-- The query for the last generated id. -/
def lastInsertIdQuery : Dialect → String
  | .mysql => "SELECT LAST_INSERT_ID()"
  | .postgres => "SELECT lastval()"

/-- The literal of a byte string. -/
def bytesLiteral (d : Dialect) (bs : List UInt8) : String :=
  match d with
  | .mysql => "X'" ++ Text.hex bs ++ "'"
  | .postgres => "'\\x" ++ Text.hex bs ++ "'::bytea"

mutual

/-- The literal of a value. Numbers stand bare, except those that are not finite. -/
def literal (d : Dialect) : Value → String
  | .null => "NULL"
  | .int n => (Value.int n).raw
  | .long n => (Value.long n).raw
  | .bigint n => (Value.bigint n).raw
  | .decimal n => (Value.decimal n).raw
  | .byte n => (Value.byte n).raw
  | .float x => if x.isFinite then x.text else d.quote x.text
  | .double x => if x.isFinite then x.text else d.quote x.text
  | .bool b => d.boolLiteral b
  | .bytes bs => d.bytesLiteral bs
  | .list items => "(" ++ Text.joinWith "," (literals d items) ++ ")"
  | .text s => d.quote s
  | .other s => d.quote s
  | .timestamp t => d.quote t.text
  | .date t => d.quote t.text
  | .time t => d.quote t.text

/-- The literals of a list of values. -/
def literals (d : Dialect) : List Value → List String
  | [] => []
  | v :: rest => literal d v :: literals d rest

end

end Dialect

/-- Escapes quotes, backslashes and NUL in a text that is bound rather than written. -/
def escapeInjection (s : String) : String := Dialect.mysql.escape s

end SqlAccess
