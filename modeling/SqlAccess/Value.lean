import SqlAccess.Calendar.Text
import SqlAccess.Json.Basic
import SqlAccess.Number.Decimal
import SqlAccess.Number.Shortest
import SqlAccess.Number.Wide
import SqlAccess.Text.Blank
import SqlAccess.Text.Bytes

/-!
# Values

`Value` is the closed set of values that statements bind and rows hold. The constructor alone
decides how a value is written and bound. Each value has a raw text, a class that says how it takes
part in a comparison, and views as an integer, a number, a timestamp and a JSON value.
-/

namespace SqlAccess

open Number Calendar

/-- A value that can be written into SQL text or bound to a placeholder. -/
inductive Value
  | null
  | text (s : String)
  | int (n : Int32)
  | long (n : Int64)
  | bigint (n : Int128)
  | float (x : Single)
  | double (x : Double)
  | decimal (d : Decimal)
  | timestamp (t : Timestamp)
  | date (d : Date)
  | time (t : Time)
  | bool (b : Bool)
  | byte (n : Int8)
  | bytes (bs : List UInt8)
  | list (items : List Value)
  | other (s : String)
  deriving Inhabited

/-- How a value takes part in a comparison. -/
inductive ValueClass
  | null
  | numeric
  | temporal
  | text
  | list
  deriving Repr, DecidableEq

/-- The name of a class. -/
def ValueClass.name : ValueClass → String
  | .null => "null"
  | .numeric => "numeric"
  | .temporal => "temporal"
  | .text => "text"
  | .list => "list"

namespace Value

/-- Whether a value is SQL NULL. -/
def isNull : Value → Bool
  | .null => true
  | _ => false

/-- The class of a value. -/
def kind : Value → ValueClass
  | .null => .null
  | .int _ | .long _ | .bigint _ | .float _ | .double _ | .decimal _ | .byte _ => .numeric
  | .timestamp _ | .date _ | .time _ => .temporal
  | .list _ => .list
  | .text _ | .bool _ | .bytes _ | .other _ => .text

/-- Whether a value is a number. -/
def isNumeric (v : Value) : Bool := v.kind = .numeric

/-- Whether a value is a date, a time or a timestamp. -/
def isTemporal (v : Value) : Bool := v.kind = .temporal

/-- A temporal value widened to a timestamp: dates at midnight, times on 1970-01-01. -/
def asTimestamp : Value → Option Timestamp
  | .timestamp t => some t
  | .date d => some (.ofDate d)
  | .time t => some (.ofTime t)
  | _ => none

/-- The compact text of a temporal value, to the second. -/
def compactTimestamp (v : Value) : Option String := v.asTimestamp.map Timestamp.compact

mutual

/-- The text of a value without quotes. -/
def raw : Value → String
  | .null => "NULL"
  | .text s => s
  | .other s => s
  | .int n => toString n.toInt
  | .long n => toString n.toInt
  | .bigint n => toString n.toInt
  | .float x => x.text
  | .double x => x.text
  | .decimal d => d.text
  | .timestamp t => t.text
  | .date d => d.text
  | .time t => t.text
  | .bool b => if b then "true" else "false"
  | .byte n => toString n.toInt
  | .bytes bs => Text.ofUtf8Lossy bs
  | .list items => Text.joinWith "," (rawItems items)

/-- The raw texts of the items of a list. -/
def rawItems : List Value → List String
  | [] => []
  | v :: rest => raw v :: rawItems rest

end

/-- The name of a value's constructor, for diagnostics. -/
def typeName : Value → String
  | .null => "null"
  | .text _ => "string"
  | .int _ => "int"
  | .long _ => "long"
  | .bigint _ => "bigint"
  | .float _ => "float"
  | .double _ => "double"
  | .decimal _ => "decimal"
  | .timestamp _ => "timestamp"
  | .date _ => "date"
  | .time _ => "time"
  | .bool _ => "bool"
  | .byte _ => "byte"
  | .bytes _ => "bytes"
  | .list _ => "list"
  | .other _ => "other"

/-- The text of a character value. -/
def asText : Value → Option String
  | .text s => some s
  | _ => none

/-- The integer that an integral value holds. -/
def integer? : Value → Option Int
  | .int n => some n.toInt
  | .long n => some n.toInt
  | .bigint n => some n.toInt
  | .byte n => some n.toInt
  | _ => none

/-- The integer that an integral value holds, when it fits 64 bits. -/
def asInt64 (v : Value) : Option Int64 := v.integer?.bind int64?

/-- An integer of 64 bits is seen as it is. -/
theorem asInt64_eq_some_iff {v : Value} {m : Int64} :
    v.asInt64 = some m ↔ v.integer? = some m.toInt := by
  simp only [asInt64, Option.bind_eq_some_iff, int64?_eq_some_iff, exists_eq_right']

/-- The floating-point view of a number; integers beyond 64 bits have none. -/
def asDouble : Value → Option Double
  | .float x => some x.toDouble
  | .double x => some x
  | .decimal d => (Double.read d.text.toList).toOption
  | v => v.asInt64.map fun n => Double.ofInt n.toInt

/-- The truth value of a Boolean value. -/
def asBool : Value → Option Bool
  | .bool b => some b
  | _ => none

mutual

/-- The JSON view of a value; what JSON has no form for is its raw text. -/
def toJson : Value → Json
  | .null => .null
  | .bool b => .bool b
  | .int n => .int n.toInt
  | .long n => .int n.toInt
  | .byte n => .int n.toInt
  | .float x => Json.ofDouble x.toDouble
  | .double x => Json.ofDouble x
  | .list items => .array (itemsToJson items)
  | v => .string v.raw

/-- The JSON views of the items of a list. -/
def itemsToJson : List Value → List Json
  | [] => []
  | v :: rest => toJson v :: itemsToJson rest

end

/-- An unsigned word, as the narrowest of the wide integers that holds it. -/
def ofUInt64 (n : UInt64) : Value :=
  ((int64? n.toNat).map .long).getD (.bigint (.ofUInt64 n))

/-- A JSON value; integers beyond 64 signed bits become floating-point numbers, and arrays and
objects are kept as their compact text. -/
def ofJson : Json → Value
  | .null => .null
  | .bool b => .bool b
  | .int n =>
    match int64? n with
    | some m => .long m
    | none => .double (Double.ofInt n)
  | .float x => .double x
  | .string s => .text s
  | v => .other v.compact

end Value

/-- The types whose members become values. -/
class ToValue (α : Type) where
  /-- The value of a member. -/
  toValue : α → Value

export ToValue (toValue)

instance : ToValue Value := ⟨id⟩
instance : ToValue String := ⟨.text⟩
instance : ToValue Int8 := ⟨.byte⟩
instance : ToValue Int16 := ⟨fun n => .int n.toInt32⟩
instance : ToValue Int32 := ⟨.int⟩
instance : ToValue Int64 := ⟨.long⟩
instance : ToValue Int128 := ⟨.bigint⟩
instance : ToValue UInt8 := ⟨fun n => .int (Int32.ofInt n.toNat)⟩
instance : ToValue UInt16 := ⟨fun n => .int (Int32.ofInt n.toNat)⟩
instance : ToValue UInt32 := ⟨fun n => .long (Int64.ofInt n.toNat)⟩
instance : ToValue UInt64 := ⟨Value.ofUInt64⟩
instance : ToValue USize := ⟨fun n => toValue n.toUInt64⟩
instance : ToValue Single := ⟨.float⟩
instance : ToValue Double := ⟨.double⟩
instance : ToValue Decimal := ⟨.decimal⟩
instance : ToValue Timestamp := ⟨.timestamp⟩
instance : ToValue Date := ⟨.date⟩
instance : ToValue Time := ⟨.time⟩
instance : ToValue Bool := ⟨.bool⟩
instance : ToValue Json := ⟨Value.ofJson⟩

/-- A member that is missing is NULL. -/
instance {α : Type} [ToValue α] : ToValue (Option α) := ⟨fun v => (v.map toValue).getD .null⟩

/-- Several members are a list of their values. -/
instance {α : Type} [ToValue α] : ToValue (List α) := ⟨fun vs => .list (vs.map toValue)⟩

/-- Bytes are one value and not a list of numbers. -/
instance (priority := 2000) : ToValue (List UInt8) := ⟨.bytes⟩

end SqlAccess
