import SqlAccess.ColumnKind

/-!
# Types of a PostgreSQL server

The types that parameters and columns can have, those of extensions by their name alone. Some take
any text as it is; among those of extensions a few put a version byte before the text.
-/

namespace SqlAccess

/-- A type of a PostgreSQL server. -/
inductive PgType
  | bool
  | bytea
  | char
  | name
  | int8
  | int2
  | int4
  | text
  | oid
  | json
  | float4
  | float8
  | unknown
  | varchar
  | bpchar
  | date
  | time
  | timestamp
  | timestamptz
  | numeric
  | jsonb
  /-- A type that is known by its name only. -/
  | other (typeName : String)
  deriving Repr, DecidableEq, Inhabited

namespace PgType

/-- The name of a type. -/
def typeName : PgType → String
  | .bool => "bool"
  | .bytea => "bytea"
  | .char => "char"
  | .name => "name"
  | .int8 => "int8"
  | .int2 => "int2"
  | .int4 => "int4"
  | .text => "text"
  | .oid => "oid"
  | .json => "json"
  | .float4 => "float4"
  | .float8 => "float8"
  | .unknown => "unknown"
  | .varchar => "varchar"
  | .bpchar => "bpchar"
  | .date => "date"
  | .time => "time"
  | .timestamp => "timestamp"
  | .timestamptz => "timestamptz"
  | .numeric => "numeric"
  | .jsonb => "jsonb"
  | .other s => s

/-- The types with a constructor of their own. -/
def known : List PgType :=
  [.bool, .bytea, .char, .name, .int8, .int2, .int4, .text, .oid, .json, .float4, .float8,
    .unknown, .varchar, .bpchar, .date, .time, .timestamp, .timestamptz, .numeric, .jsonb]

/-- The type with a name. -/
def ofName (s : String) : PgType := (known.find? fun t => t.typeName = s).getD (.other s)

/-- The types of extensions whose binary form is a version byte and the text. -/
def isVersioned : PgType → Bool
  | .other s => ["ltree", "lquery", "ltxtquery"].contains s
  | _ => false

/-- The types that take any text. -/
def isText : PgType → Bool
  | .varchar | .text | .bpchar | .name | .unknown => true
  | .other s => ["citext", "ltree", "lquery", "ltxtquery"].contains s
  | _ => false

/-- The kind of the columns of a type. -/
def columnKind : PgType → ColumnKind
  | .bool => .bool
  | .char | .int2 | .int4 => .smallInt
  | .int8 | .oid => .bigInt
  | .float4 => .float
  | .float8 => .double
  | .numeric => .decimal
  | .bytea => .binary
  | .timestamp | .timestamptz | .date | .time => .temporal
  | .text | .varchar | .bpchar | .name | .unknown | .json | .jsonb => .char
  | .other s => .unsupported s

end PgType

end SqlAccess
