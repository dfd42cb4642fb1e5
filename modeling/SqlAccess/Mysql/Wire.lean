import SqlAccess.Calendar.Basic
import SqlAccess.ColumnKind
import SqlAccess.Number.Ieee

/-!
# Values and column types of a MySQL connection

What stands on a MySQL connection in the place of a parameter or a cell: NULL, bytes, which are
also the form of all text, integers, floating-point numbers, dates with a time, and spans of time.
The types of columns are numbers; those of bytes become text unless their character set is the
binary one.
-/

namespace SqlAccess

/-- A value on a MySQL connection. -/
inductive MysqlValue
  | null
  | bytes (bs : List UInt8)
  | int (n : Int64)
  | uint (n : UInt64)
  | float (x : Number.Single)
  | double (x : Number.Double)
  | date (year : UInt16) (month day hour minute second : UInt8) (micros : UInt32)
  | time (negative : Bool) (days : UInt32) (hours minutes seconds : UInt8) (micros : UInt32)
  deriving Repr, DecidableEq, Inhabited

namespace Mysql

/-- The number of the binary character set. -/
def binaryCharset : Nat := 63

/-- The kind of the columns of a type, by the number of the type; `none` for no type. -/
def columnKind (typeNumber charset : Nat) : Option ColumnKind :=
  let textual : ColumnKind := if charset = binaryCharset then .binary else .char
  match typeNumber with
  | 0 | 246 => some .decimal
  | 1 | 2 | 3 | 9 | 13 => some .smallInt
  | 4 => some .float
  | 5 => some .double
  | 6 => some .char
  | 7 | 10 | 11 | 12 | 17 | 18 | 19 => some .temporal
  | 8 => some .bigInt
  | 15 => some textual
  | 16 => some .bool
  | 20 => some (.unsupported "MYSQL_TYPE_TYPED_ARRAY")
  | 243 => some (.unsupported "MYSQL_TYPE_UNKNOWN")
  | 245 | 247 | 248 => some .char
  | 249 | 250 | 251 | 252 | 253 | 254 => some textual
  | 255 => some .binary
  | _ => none

end Mysql

end SqlAccess
