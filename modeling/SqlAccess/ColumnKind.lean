import SqlAccess.Trace

/-!
# Kinds of columns

How the cells of a column are turned into values. A column of a type that no value stands for
is read as text where that is possible.
-/

namespace SqlAccess

/-- The kinds of columns. -/
inductive ColumnKind
  | char
  | binary
  | smallInt
  | bigInt
  | float
  | double
  | decimal
  | bool
  | temporal
  | unsupported (typeName : String)
  deriving Repr, DecidableEq, Inhabited

namespace ColumnKind

/-- The name of a kind; a type without a kind has none. -/
def name? : ColumnKind → Option String
  | .char => some "Char"
  | .binary => some "Binary"
  | .smallInt => some "SmallInt"
  | .bigInt => some "BigInt"
  | .float => some "Float"
  | .double => some "Double"
  | .decimal => some "Decimal"
  | .bool => some "Bool"
  | .temporal => some "Temporal"
  | .unsupported _ => none

/-- The kind with a name. -/
def ofName? (s : String) : Option ColumnKind :=
  [char, binary, smallInt, bigInt, float, double, decimal, bool, temporal].find? fun k =>
    k.name? = some s

/-- A binary cell cut to a number of bytes, and the event about it. -/
def cap (max : Nat) (bytes : List UInt8) : List UInt8 × List Event :=
  if max < bytes.length then
    (bytes.take max,
      [.ofMessage .debug "truncating binary cell"
        [("len", toString bytes.length), ("max", toString max)]])
  else (bytes, [])

end ColumnKind

end SqlAccess
