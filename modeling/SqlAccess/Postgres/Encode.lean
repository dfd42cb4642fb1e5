import SqlAccess.Postgres.PgType
import SqlAccess.Postgres.Wire
import SqlAccess.Value

/-!
# Values as PostgreSQL parameters

A value takes the binary form of the type that the server expects at its placeholder. Numbers are
never cut: an integer that does not fit, a fraction where an integer is wanted, or a value of
another kind is a fault. Text is read as whatever the type needs.
-/

namespace SqlAccess

open Number Calendar

/-- Why a value cannot be bound as a type. -/
inductive BindFault
  | notInteger (e : IntegerError)
  | outOfRange
  | notFloat (e : FloatError)
  | notDecimal
  | mismatch (valueType : String) (t : PgType)
  | unexpandedList
  deriving Repr, DecidableEq

/-- The wording of a fault that has one of its own. -/
def BindFault.message : BindFault → String
  | .notInteger e => e.message
  | .outOfRange => "out of range integral type conversion attempted"
  | .notFloat e => e.message
  | .notDecimal => "invalid decimal"
  | .mismatch valueType t =>
    "cannot bind " ++ valueType ++ " value to parameter of type " ++ t.typeName
  | .unexpandedList => "list values must be expanded into one placeholder per element"

namespace Wire

/-- The nanoseconds of 2000-01-01, from which timestamps are counted on a connection. -/
def timestampOrigin : Int := 946684800000000000

/-- The binary form of a timestamp: microseconds, cut toward the origin. -/
def timestamp (t : Timestamp) : List UInt8 :=
  integer 8 ((t.nanoNumber - timestampOrigin).tdiv 1000)

/-- The binary form of a date: days from 2000-01-01. -/
def date (d : Date) : List UInt8 := integer 4 (d.dayNumber - 10957)

/-- The binary form of a time: microseconds from midnight. -/
def time (t : Time) : List UInt8 := integer 8 (t.nanoOfDay / 1000 : Nat)

/-- The binary form of a truth value. -/
def bool (b : Bool) : List UInt8 := [if b then 1 else 0]

/-- The binary form of a 32-bit floating-point number. -/
def single (x : Single) : List UInt8 := bigEndian 4 x.bits.toNat

/-- The binary form of a 64-bit floating-point number. -/
def double (x : Double) : List UInt8 := bigEndian 8 x.bits.toNat

/-- The binary form of a text as a type that takes any text. -/
def text (t : PgType) (s : String) : List UInt8 :=
  if t.isVersioned then 1 :: Text.utf8 s else Text.utf8 s

end Wire

namespace Value

/-- Bytes, or why there are none. -/
abbrev Encoding := Except BindFault (List UInt8)

/-- The refusal of a value by a type. -/
def refused (v : Value) (t : PgType) : Encoding := .error (.mismatch v.typeName t)

/-- An integer that has to lie between two bounds. -/
def boundedInteger (width : Nat) (low high n : Int) : Encoding :=
  if low ≤ n ∧ n ≤ high then .ok (Wire.integer width n) else .error .outOfRange

/-- A decimal number, if there is one. -/
def encodeDecimal? (d : Option Decimal) : Encoding :=
  match d with
  | some d => .ok (Wire.numeric d)
  | none => .error .notDecimal

/-- An integer as a parameter. -/
def encodeInteger (v : Value) (n : Int) (t : PgType) : Encoding :=
  match t with
  | .int2 => boundedInteger 2 (-32768) 32767 n
  | .int4 => boundedInteger 4 (-2147483648) 2147483647 n
  | .int8 => boundedInteger 8 (-9223372036854775808) 9223372036854775807 n
  | .oid => boundedInteger 4 0 4294967295 n
  | .char => boundedInteger 1 (-128) 127 n
  | .float4 => .ok (Wire.single (.ofInt n))
  | .float8 => .ok (Wire.double (.ofInt n))
  | .numeric => encodeDecimal? (Decimal.ofInt? n)
  | .bool => .ok (Wire.bool (n ≠ 0))
  | t => if t.isText then .ok (Wire.text t (toString n)) else v.refused t

/-- A floating-point number as a parameter. -/
def encodeFloat (v : Value) (x : Double) (t : PgType) : Encoding :=
  match t with
  | .float4 => .ok (Wire.single x.toSingle)
  | .float8 => .ok (Wire.double x)
  | .numeric => encodeDecimal? (Decimal.ofDouble? x)
  | t => if t.isText then .ok (Wire.text t v.raw) else v.refused t

/-- A decimal number as a parameter. -/
def encodeDecimal (v : Value) (d : Decimal) (t : PgType) : Encoding :=
  match t with
  | .numeric => .ok (Wire.numeric d)
  | .float4 | .float8 => v.encodeFloat d.toDouble t
  | .int2 | .int4 | .int8 => if d.isIntegral then v.encodeInteger d.toInt t else v.refused t
  | t => if t.isText then .ok (Wire.text t d.text) else v.refused t

/-- The words that stand for truth values. -/
def boolOfWord (s : String) : Option Bool :=
  let word := Text.asciiLower (Text.trim s)
  if ["1", "t", "true", "y", "yes", "on"].contains word then some true
  else if ["0", "f", "false", "n", "no", "off"].contains word then some false
  else none

/-- Text as a parameter. -/
def encodeText (v : Value) (s : String) (t : PgType) : Encoding :=
  match t with
  | .jsonb => .ok (1 :: Text.utf8 s)
  | .json => .ok (Text.utf8 s)
  | .int2 | .int4 | .int8 | .oid =>
    match Int128.read (Text.trim s).toList with
    | .ok n => v.encodeInteger n.toInt t
    | .error e => .error (.notInteger e)
  | .float4 | .float8 =>
    match Double.read (Text.trim s).toList with
    | .ok x => v.encodeFloat x t
    | .error e => .error (.notFloat e)
  | .numeric => encodeDecimal? (Decimal.read (Text.trim s).toList).toOption
  | .bool =>
    match boolOfWord s with
    | some b => .ok (Wire.bool b)
    | none => v.refused t
  | t => if t.isText then .ok (Wire.text t s) else v.refused t

/-- A date, a time or a timestamp as a parameter. -/
def encodeTemporal (v : Value) (ts : Timestamp) (t : PgType) : Encoding :=
  let ofDate : Bool := match v with | .date _ => true | _ => false
  let ofTime : Bool := match v with | .time _ => true | _ => false
  match t with
  | .timestamp | .timestamptz => .ok (Wire.timestamp ts)
  | .date => if ofTime then v.refused t else .ok (Wire.date ts.date)
  | .time => if ofDate then v.refused t else .ok (Wire.time ts.time)
  | t => if t.isText then .ok (Wire.text t v.raw) else v.refused t

/-- The binary form of a value as a parameter of a type; NULL has none. -/
def encode (t : PgType) (v : Value) : Except BindFault (Option (List UInt8)) :=
  match v with
  | .null => .ok none
  | .text s | .other s => (v.encodeText s t).map some
  | .int n => (v.encodeInteger n.toInt t).map some
  | .long n => (v.encodeInteger n.toInt t).map some
  | .bigint n => (v.encodeInteger n.toInt t).map some
  | .byte n => (v.encodeInteger n.toInt t).map some
  | .float x => (v.encodeFloat x.toDouble t).map some
  | .double x => (v.encodeFloat x t).map some
  | .decimal d => (v.encodeDecimal d t).map some
  | .timestamp ts => (v.encodeTemporal ts t).map some
  | .date d => (v.encodeTemporal (.ofDate d) t).map some
  | .time c => (v.encodeTemporal (.ofTime c) t).map some
  | .bool b =>
    match t with
    | .bool => .ok (some (Wire.bool b))
    | .int2 | .int4 | .int8 => (v.encodeInteger (if b then 1 else 0) t).map some
    | t => if t.isText then .ok (some (Wire.text t v.raw)) else (v.refused t).map some
  | .bytes bs =>
    match t with
    | .bytea => .ok (some bs)
    | t => (v.refused t).map some
  | .list _ => .error .unexpandedList

end Value

end SqlAccess
