import SqlAccess.Error
import SqlAccess.Json.Reading
import SqlAccess.Postgres.Encode

/-!
# Cells of PostgreSQL rows

A cell is read by the type of its column. Temporal cells all become timestamps, a JSON cell becomes
its compact text, and a cell of a type without a kind is read only if the type takes any text.
-/

namespace SqlAccess

open Number Calendar

namespace Wire

/-- Bytes of an exact width. -/
def exactly (width : Nat) (bytes : List UInt8) : Option (List UInt8) :=
  if bytes.length = width then some bytes else none

/-- A timestamp from its binary form. -/
def readTimestamp (bytes : List UInt8) : Option Timestamp :=
  (exactly 8 bytes).bind fun bs => Timestamp.ofNanoNumber? (signed bs * 1000 + timestampOrigin)

/-- A date from its binary form. -/
def readDate (bytes : List UInt8) : Option Date :=
  (exactly 4 bytes).bind fun bs => Date.ofDayNumber? (signed bs + 10957)

/-- A time from its binary form; what lies outside a day goes round. -/
def readTime (bytes : List UInt8) : Option Time :=
  (exactly 8 bytes).map fun bs => Time.ofNanoOfDay (signed bs * 1000 % 86400000000000).toNat

/-- A JSON cell as its compact text; the binary kind has a version byte. -/
def readJson (versioned : Bool) (bytes : List UInt8) : Option String :=
  let text : Option (List UInt8) :=
    if !versioned then some bytes
    else
      match bytes with
      | 1 :: rest => some rest
      | _ => none
  ((text.bind Text.ofUtf8?).bind Json.read?).map Json.compact

/-- Text from its binary form. -/
def readText (t : PgType) (bytes : List UInt8) : Option String :=
  if !t.isVersioned then Text.ofUtf8? bytes
  else
    match bytes with
    | 1 :: rest => Text.ofUtf8? rest
    | _ => none

/-- The value of a cell that is not NULL, and what was reported on the way. -/
def readCell (t : PgType) (maxBlob : Nat) (bytes : List UInt8) : Option (Value × List Event) :=
  let plain (v : Option Value) : Option (Value × List Event) := v.map fun v => (v, [])
  let sized (width : Nat) (f : List UInt8 → Value) : Option (Value × List Event) :=
    plain ((exactly width bytes).map f)
  match t with
  | .bool => sized 1 fun bs => .bool (natural bs ≠ 0)
  | .char => sized 1 fun bs => .int (Int32.ofInt (signed bs))
  | .int2 => sized 2 fun bs => .int (Int32.ofInt (signed bs))
  | .int4 => sized 4 fun bs => .int (Int32.ofInt (signed bs))
  | .int8 => sized 8 fun bs => .long (Int64.ofInt (signed bs))
  | .oid => sized 4 fun bs => .long (Int64.ofInt (natural bs))
  | .float4 => sized 4 fun bs => .float ⟨.ofNat (natural bs)⟩
  | .float8 => sized 8 fun bs => .double ⟨.ofNat (natural bs)⟩
  | .numeric => plain ((readNumeric bytes).map .decimal)
  | .bytea =>
    let (kept, events) := ColumnKind.cap maxBlob bytes
    some (.bytes kept, events)
  | .timestamp | .timestamptz => plain ((readTimestamp bytes).map .timestamp)
  | .date => plain ((readDate bytes).map fun d => .timestamp (.ofDate d))
  | .time => plain ((readTime bytes).map fun c => .timestamp (.ofTime c))
  | .json => plain ((readJson false bytes).map .text)
  | .jsonb => plain ((readJson true bytes).map .text)
  | .text | .varchar | .bpchar | .name | .unknown | .other _ =>
    plain ((readText t bytes).map .text)

end Wire

/-- A column of a result. -/
structure PgColumn where
  name : String
  type : PgType
  deriving Repr, DecidableEq, Inhabited

namespace PgColumn

/-- The error of a column whose type no value stands for. -/
def unsupported (c : PgColumn) : DbError :=
  .decode c.name ("unsupported column type " ++ c.type.typeName)

/-- The error of a cell that is not of its column's type. -/
def undecodable (c : PgColumn) (index : Nat) : DbError :=
  .decode c.name ("error deserializing column " ++ toString index)

/-- The value of a cell, where NULL is no value, and what was reported on the way. -/
def decode (c : PgColumn) (index maxBlob : Nat) (cell : Option (List UInt8)) :
    Except DbError (Option Value × List Event) :=
  match c.type.columnKind, c.type.isText with
  | .unsupported _, false => .error c.unsupported
  | kind, _ =>
    match cell with
    | none => .ok (none, [])
    | some bytes =>
      match Wire.readCell c.type maxBlob bytes, kind with
      | some (v, events), _ => .ok (some v, events)
      | none, .unsupported _ => .error c.unsupported
      | none, _ => .error (c.undecodable index)

/-- A cell that is read has its value, where the type of the column has a kind. -/
theorem decode_of_readCell {c : PgColumn} {maxBlob : Nat} {bytes : List UInt8} {v : Value}
    {events : List Event} (hkind : ∀ s, c.type.columnKind ≠ .unsupported s)
    (hread : Wire.readCell c.type maxBlob bytes = some (v, events)) (index : Nat) :
    c.decode index maxBlob (some bytes) = .ok (some v, events) := by
  unfold decode
  split
  · rename_i h _
    exact absurd h (hkind _)
  · simp only [hread]

end PgColumn

end SqlAccess
