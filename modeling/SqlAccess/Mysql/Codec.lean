import SqlAccess.Calendar.Reading
import SqlAccess.Error
import SqlAccess.Mysql.Wire
import SqlAccess.Text.Shown
import SqlAccess.Value

/-!
# Values as MySQL parameters and cells

A value becomes the wire form that loses nothing of it, integers beyond 64 bits and decimal numbers
as text. A cell is read by the kind of its column, from binary forms and from text alike. Integers
take the narrowest value that holds them, and a date of zeros is NULL.
-/

namespace SqlAccess

open Number Calendar

namespace Mysql

/-- The wire form of an integer of 128 bits. -/
def ofInteger (n : Int) : MysqlValue :=
  match int64? n with
  | some m => .int m
  | none =>
    if 0 ≤ n ∧ n < UInt64.size then .uint (.ofNat n.toNat) else .bytes (Text.utf8 (toString n))

/-- The wire form of a value. Years are kept modulo 65536. -/
def encode : Value → MysqlValue
  | .null => .null
  | .text s => .bytes (Text.utf8 s)
  | .other s => .bytes (Text.utf8 s)
  | .int n => .int n.toInt64
  | .long n => .int n
  | .bigint n => ofInteger n.toInt
  | .float x => .float x
  | .double x => .double x
  | .decimal d => .bytes (Text.utf8 d.text)
  | .timestamp t =>
    .date (.ofNat (t.date.year % 65536).toNat) (.ofNat t.date.month) (.ofNat t.date.day)
      (.ofNat t.time.hour) (.ofNat t.time.minute) (.ofNat t.time.second)
      (.ofNat (t.time.nanos / 1000))
  | .date d => .date (.ofNat (d.year % 65536).toNat) (.ofNat d.month) (.ofNat d.day) 0 0 0 0
  | .time t =>
    .time false 0 (.ofNat t.hour) (.ofNat t.minute) (.ofNat t.second) (.ofNat (t.nanos / 1000))
  | .bool b => .int (if b then 1 else 0)
  | .byte n => .int n.toInt64
  | .bytes bs => .bytes bs
  | .list items => .bytes (Text.utf8 (Value.list items).raw)

/-- Why a cell cannot be read. -/
inductive CellFault
  | unexpected
  | unexpectedTemporal
  | notText (e : Text.Utf8Fault)
  | notNumber (text reason : String)
  | notTimestamp (text : String)
  | noDate
  | noTime
  | beyondDay
  deriving Repr, DecidableEq

/-- The wording of a fault. -/
def CellFault.message : CellFault → String
  | .unexpected => "unexpected value"
  | .unexpectedTemporal => "unexpected temporal value"
  | .notText e => e.message
  | .notNumber text reason => "cannot parse " ++ Text.shown text ++ ": " ++ reason
  | .notTimestamp text => "cannot parse " ++ Text.shown text ++ " as a timestamp"
  | .noDate => "invalid date"
  | .noTime => "invalid time"
  | .beyondDay => "time value outside a single day"

/-- The text of a cell. -/
def cellText (bs : List UInt8) : Except CellFault String := (Text.ofUtf8 bs).mapError .notText

/-- The text of a cell without blanks around it, read as a number. -/
def parseCell {α ε : Type} (read : List Char → Except ε α) (reason : ε → String)
    (bs : List UInt8) : Except CellFault α :=
  match cellText bs with
  | .error e => .error e
  | .ok s => (read (Text.trim s).toList).mapError fun e => .notNumber s (reason e)

/-- A cell read as an integer of 128 bits. -/
def parseInteger (bs : List UInt8) : Except CellFault Int128 :=
  parseCell Int128.read IntegerError.message bs

/-- An integer in the narrowest of 64 and 128 bits that holds it. -/
def wideInteger (n : Int128) : Value :=
  match int64? n.toInt with
  | some m => .long m
  | none => .bigint n

/-- An integer in the narrowest of 32, 64 and 128 bits that holds it. -/
def narrowInteger (n : Int128) : Value :=
  match int32? n.toInt with
  | some m => .int m
  | none => wideInteger n

/-- A timestamp from a temporal cell; a date of zeros has none. -/
def readTemporal : MysqlValue → Except CellFault (Option Timestamp)
  | .date year month day hour minute second micros =>
    if year = 0 ∧ month = 0 ∧ day = 0 then .ok none
    else
      match Date.ofParts? year.toNat month.toNat day.toNat,
          Time.ofParts? hour.toNat minute.toNat second.toNat (micros.toNat * 1000) with
      | some d, some t => .ok (some ⟨d, t⟩)
      | _, _ => .error .noDate
  | .time negative days hours minutes seconds micros =>
    if negative || days ≠ 0 then .error .beyondDay
    else
      match Time.ofParts? hours.toNat minutes.toNat seconds.toNat (micros.toNat * 1000) with
      | some t => .ok (some (.ofTime t))
      | none => .error .noTime
  | .bytes bs =>
    match cellText bs with
    | .error e => .error e
    | .ok s =>
      match Timestamp.read s.toList with
      | some t => .ok (some t)
      | none => .error (.notTimestamp s)
  | _ => .error .unexpectedTemporal

/-- The value of a cell that is not NULL; a date of zeros has none. -/
def readCell (kind : ColumnKind) (v : MysqlValue) : Except CellFault (Option Value) :=
  match kind, v with
  | .bool, .bytes bs => .ok (some (.bool (bs.any (· ≠ 0))))
  | .bool, .int n => .ok (some (.bool (n ≠ 0)))
  | .bool, .uint n => .ok (some (.bool (n ≠ 0)))
  | .smallInt, .int n => .ok (some (narrowInteger (.ofInt64 n)))
  | .smallInt, .uint n => .ok (some (narrowInteger (.ofUInt64 n)))
  | .smallInt, .bytes bs => (parseInteger bs).map fun n => some (narrowInteger n)
  | .bigInt, .int n => .ok (some (wideInteger (.ofInt64 n)))
  | .bigInt, .uint n => .ok (some (wideInteger (.ofUInt64 n)))
  | .bigInt, .bytes bs => (parseInteger bs).map fun n => some (wideInteger n)
  | .float, .float x => .ok (some (.float x))
  | .float, .double x => .ok (some (.float x.toSingle))
  | .float, .bytes bs =>
    (parseCell Single.read FloatError.message bs).map fun x => some (.float x)
  | .double, .double x => .ok (some (.double x))
  | .double, .float x => .ok (some (.double x.toDouble))
  | .double, .bytes bs =>
    (parseCell Double.read FloatError.message bs).map fun x => some (.double x)
  | .decimal, .bytes bs =>
    (parseCell Decimal.read Decimal.ReadError.message bs).map fun d => some (.decimal d)
  | .decimal, .int n => .ok (some (.decimal (Decimal.ofInt64 n)))
  | .temporal, v => (readTemporal v).map fun t => t.map .timestamp
  | .binary, .bytes bs => .ok (some (.bytes bs))
  | .char, .bytes bs => (cellText bs).map fun s => some (.text s)
  | .char, .int n => .ok (some (.text (toString n.toInt)))
  | .char, .uint n => .ok (some (.text (toString n.toNat)))
  | .unsupported _, .bytes bs => (cellText bs).map fun s => some (.text s)
  | .unsupported _, .int n => .ok (some (.text (toString n.toInt)))
  | .unsupported _, .uint n => .ok (some (.text (toString n.toNat)))
  | _, _ => .error .unexpected

/-- The value of a cell, where NULL is no value; binary cells are cut to a number of bytes. -/
def decode (column : String) (kind : ColumnKind) (maxBlob : Nat) (v : MysqlValue) :
    Except DbError (Option Value × List Event) :=
  match v with
  | .null => .ok (none, [])
  | v =>
    match readCell kind v with
    | .error fault => .error (.decode column fault.message)
    | .ok (some (.bytes bs)) =>
      let (kept, events) := ColumnKind.cap maxBlob bs
      .ok (some (.bytes kept), events)
    | .ok found => .ok (found, [])

/-- A cell that is read as a value has it; bytes alone may be cut. -/
theorem decode_of_readCell {column : String} {kind : ColumnKind} {maxBlob : Nat} {cell : MysqlValue}
    {v : Value} (hcell : cell ≠ .null) (hv : ∀ bs, v ≠ .bytes bs)
    (hread : readCell kind cell = .ok (some v)) :
    decode column kind maxBlob cell = .ok (some v, []) := by
  unfold decode
  split
  · exact absurd rfl hcell
  · rw [hread]
    split
    · rename_i h
      cases h
    · rename_i bs h
      cases h
      exact absurd rfl (hv bs)
    · rename_i h
      cases h
      rfl

end Mysql

end SqlAccess
