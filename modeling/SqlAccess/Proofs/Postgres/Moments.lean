import SqlAccess.Postgres.Decode
import SqlAccess.Proofs.Calendar.DayNumber
import SqlAccess.Proofs.Postgres.TwosComplement

/-!
# Moments as PostgreSQL parameters and cells

A server counts microseconds or days from the first moment of 2000, and the microseconds of a day.
Every moment with whole microseconds is bound by its exact count, before and after that moment, and
a cell of the type gives back what the type keeps of it: all of it, its date, or its time of
day.
-/

namespace SqlAccess

open Calendar

/-- The types of moments on a server. -/
inductive TemporalType
  | timestamp
  | timestamptz
  | date
  | time
  deriving DecidableEq

namespace TemporalType

/-- The type of parameters and columns. -/
def pgType : TemporalType → PgType
  | .timestamp => .timestamp
  | .timestamptz => .timestamptz
  | .date => .date
  | .time => .time

/-- How many bytes a moment takes. -/
def width : TemporalType → Nat
  | .timestamp | .timestamptz | .time => 8
  | .date => 4

/-- Whether a type takes a value: a time of day has no date, and a date no time of day. -/
def takes : TemporalType → Value → Bool
  | .date, .time _ => false
  | .time, .date _ => false
  | _, _ => true

/-- What a type keeps of a moment. -/
def kept : TemporalType → Timestamp → Timestamp
  | .timestamp, t | .timestamptz, t => t
  | .date, t => .ofDate t.date
  | .time, t => .ofTime t.time

/-- The day from which a server counts. -/
def origin : Date := (Date.ofParts? 2000 1 1).get rfl

/-- What a server counts: microseconds or days from the first moment of 2000, or the microseconds
of the day. -/
def count : TemporalType → Timestamp → Int
  | .timestamp, t | .timestamptz, t => (t.nanoNumber - (Timestamp.ofDate origin).nanoNumber) / 1000
  | .date, t => t.date.dayNumber - origin.dayNumber
  | .time, t => t.time.nanoOfDay / 1000

/-- Whether a count fits the width of its type. -/
def Fits (T : TemporalType) (n : Int) : Prop :=
  -((256 ^ T.width : Nat) : Int) ≤ 2 * n ∧ 2 * n < (256 ^ T.width : Nat)

/-- The exact binary form of a moment: its count in two's complement. -/
def bytes (T : TemporalType) (t : Timestamp) : List UInt8 :=
  Wire.wordBytes (BitVec.ofInt (8 * T.width) (T.count t))

/-! ## Counts -/

/-- The day from which days are counted on the wire. -/
theorem dayNumber_origin : origin.dayNumber = 10957 := by decide

/-- The moment from which microseconds are counted on the wire. -/
private theorem nanoNumber_origin :
    (Timestamp.ofDate origin).nanoNumber = Wire.timestampOrigin := by
  have hmidnight : Time.midnight.nanoOfDay = 0 := rfl
  rw [Timestamp.nanoNumber, Timestamp.ofDate, dayNumber_origin, hmidnight, Wire.timestampOrigin]
  omega

section Moment

variable {t : Timestamp}

/-- The binary form is the one on a connection. -/
theorem bytes_eq_integer (T : TemporalType) (t : Timestamp) :
    T.bytes t = Wire.integer T.width (T.count t) :=
  (Wire.integer_eq_wordBytes T.width (T.count t)).symm

/-- Counts fit their width. -/
theorem fits_count (T : TemporalType) (h : t.time.nanos < 1000000000) : T.Fits (T.count t) := by
  have hday := t.date.dayNumber_mem
  have htime := Time.nanoOfDay_lt h
  cases T with
  | timestamp | timestamptz =>
    rw [Fits, count, nanoNumber_origin, Timestamp.nanoNumber]
    simp only [width, Wire.timestampOrigin]
    omega
  | date =>
    rw [Fits, count, dayNumber_origin]
    simp only [width]
    omega
  | time =>
    simp only [Fits, width, count]
    omega

/-- A count of microseconds loses nothing of whole ones. -/
private theorem count_mul (h : 1000 ∣ t.time.nanos) :
    count .timestamp t * 1000 = t.nanoNumber - Wire.timestampOrigin := by
  rw [count, nanoNumber_origin, Timestamp.nanoNumber, Time.nanoOfDay, Wire.timestampOrigin]
  omega

/-! ## Parameters -/

/-- Whole microseconds are not cut. -/
private theorem timestamp_eq_bytes (h : 1000 ∣ t.time.nanos) :
    Wire.timestamp t = bytes .timestamp t := by
  rw [Wire.timestamp, ← count_mul h, Int.mul_tdiv_cancel _ (by decide), bytes_eq_integer]
  rfl

private theorem date_eq_bytes (t : Timestamp) : Wire.date t.date = bytes .date t :=
  (bytes_eq_integer .date t).symm

private theorem time_eq_bytes (t : Timestamp) : Wire.time t.time = bytes .time t :=
  (bytes_eq_integer .time t).symm

/-- Temporal values are bound by their moments. -/
private theorem encode_of_asTimestamp {v : Value} (hv : v.asTimestamp = some t) (u : PgType) :
    v.encode u = (v.encodeTemporal t u).map some := by
  cases v <;> cases hv <;> rfl

/-- A type binds the moment of every value that it takes, and refuses the others. -/
theorem encodeTemporal_pgType (T : TemporalType) {v : Value} (hv : v.asTimestamp = some t)
    (hmicros : 1000 ∣ t.time.nanos) :
    v.encodeTemporal t T.pgType =
      if T.takes v then .ok (T.bytes t) else .error (.mismatch v.typeName T.pgType) := by
  cases T with
  | timestamp | timestamptz => exact congrArg Except.ok (timestamp_eq_bytes hmicros)
  | date =>
    rw [← date_eq_bytes t]
    cases v <;> cases hv <;> rfl
  | time =>
    rw [← time_eq_bytes t]
    cases v <;> cases hv <;> rfl

/-! ## Cells -/

/-- The binary form has the width of its type. -/
theorem exactly_bytes (T : TemporalType) (t : Timestamp) :
    Wire.exactly T.width (T.bytes t) = some (T.bytes t) := by
  rw [bytes_eq_integer]
  exact if_pos (Wire.length_integer T.width _)

/-- The count is read from the binary form. -/
theorem signed_bytes (T : TemporalType) (h : t.time.nanos < 1000000000) :
    Wire.signed (T.bytes t) = T.count t := by
  rw [bytes_eq_integer]
  exact Wire.signed_integer (T.fits_count h).1 (T.fits_count h).2

/-- A moment in whole microseconds reads back from its bytes. -/
theorem readTimestamp_bytes (h : t.time.nanos < 1000000000) (hmicros : 1000 ∣ t.time.nanos) :
    Wire.readTimestamp (bytes .timestamp t) = some t := by
  have hnumber : count .timestamp t * 1000 + Wire.timestampOrigin = t.nanoNumber := by
    rw [count_mul hmicros, Int.sub_add_cancel]
  have hexact : Wire.exactly 8 (bytes .timestamp t) = _ := exactly_bytes .timestamp t
  rw [Wire.readTimestamp, hexact, Option.bind_some, signed_bytes .timestamp h,
    hnumber, Timestamp.ofNanoNumber?_nanoNumber h]

/-- A date reads back from its bytes. -/
theorem readDate_bytes (h : t.time.nanos < 1000000000) :
    Wire.readDate (bytes .date t) = some t.date := by
  have hnumber : count .date t + 10957 = t.date.dayNumber := by
    rw [count, dayNumber_origin, Int.sub_add_cancel]
  have hexact : Wire.exactly 4 (bytes .date t) = _ := exactly_bytes .date t
  rw [Wire.readDate, hexact, Option.bind_some, signed_bytes .date h, hnumber,
    t.date.ofDayNumber?_dayNumber]

/-- A time in whole microseconds reads back from its bytes. -/
theorem readTime_bytes (h : t.time.nanos < 1000000000) (hmicros : 1000 ∣ t.time.nanos) :
    Wire.readTime (bytes .time t) = some t.time := by
  have hlt := Time.nanoOfDay_lt h
  have hnumber : (count .time t * 1000 % 86400000000000).toNat = t.time.nanoOfDay := by
    have hwhole : 1000 ∣ t.time.nanoOfDay := by
      unfold Time.nanoOfDay
      omega
    rw [count]
    omega
  have hexact : Wire.exactly 8 (bytes .time t) = _ := exactly_bytes .time t
  rw [Wire.readTime, hexact, Option.map_some, signed_bytes .time h, hnumber,
    Time.ofNanoOfDay_nanoOfDay h]

/-- The binary form is read as what the type keeps of the moment. -/
theorem readCell_bytes (T : TemporalType) (h : t.time.nanos < 1000000000)
    (hmicros : 1000 ∣ t.time.nanos) (maxBlob : Nat) :
    Wire.readCell T.pgType maxBlob (T.bytes t) = some (.timestamp (T.kept t), []) := by
  have htimestamp := readTimestamp_bytes h hmicros
  have hdate := readDate_bytes h
  have htime := readTime_bytes h hmicros
  cases T with
  | timestamp => simp only [pgType, Wire.readCell, htimestamp, Option.map_some, kept]
  | timestamptz =>
    have hbytes : bytes .timestamptz t = bytes .timestamp t := rfl
    simp only [pgType, Wire.readCell, hbytes, htimestamp, Option.map_some, kept]
  | date => simp only [pgType, Wire.readCell, hdate, Option.map_some, kept]
  | time => simp only [pgType, Wire.readCell, htime, Option.map_some, kept]

/-- A column of the type gives the value of what it keeps. -/
theorem decode_bytes (T : TemporalType) (h : t.time.nanos < 1000000000)
    (hmicros : 1000 ∣ t.time.nanos) (name : String) (index maxBlob : Nat) :
    (⟨name, T.pgType⟩ : PgColumn).decode index maxBlob (some (T.bytes t)) =
      .ok (some (.timestamp (T.kept t)), []) := by
  have hkind : ∀ s, T.pgType.columnKind ≠ .unsupported s := by
    intro s hs
    cases T <;> cases hs
  exact PgColumn.decode_of_readCell hkind (readCell_bytes T h hmicros maxBlob) index

end Moment

/-- Moments with whole microseconds and without a leap second are bound by their exact counts,
which always fit, and a column of the type gives back what the type keeps of them. Timestamps take
every value, dates all but times of day, and times of day all but dates. -/
theorem moments_are_bound_and_read_back (T : TemporalType) (v : Value) (t : Timestamp)
    (hv : v.asTimestamp = some t) (hmicros : 1000 ∣ t.time.nanos)
    (hsecond : t.time.nanos < 1000000000) :
    T.Fits (T.count t) ∧
    v.encode T.pgType =
      (if T.takes v then .ok (some (T.bytes t)) else .error (.mismatch v.typeName T.pgType)) ∧
    ∀ (name : String) (index maxBlob : Nat),
      (⟨name, T.pgType⟩ : PgColumn).decode index maxBlob (some (T.bytes t)) =
        .ok (some (.timestamp (T.kept t)), []) := by
  refine ⟨T.fits_count hsecond, ?_, T.decode_bytes hsecond hmicros⟩
  rw [encode_of_asTimestamp hv, T.encodeTemporal_pgType hv hmicros]
  split <;> rfl

/-- The last microsecond before the origin. -/
def lastMicrosecond : Timestamp :=
  ⟨(Date.ofParts? 1999 12 31).get rfl, (Time.ofParts? 23 59 59 999999000).get rfl⟩

/-- Counts before the origin are negative, and a time of day is no date. -/
theorem lastMicrosecond_is_bound_and_read_back :
    (Value.timestamp lastMicrosecond).encode .timestamptz =
      .ok (some [255, 255, 255, 255, 255, 255, 255, 255]) ∧
    (⟨"at", .timestamptz⟩ : PgColumn).decode 0 100
      (some [255, 255, 255, 255, 255, 255, 255, 255]) =
        .ok (some (.timestamp lastMicrosecond), []) ∧
    (Value.timestamp lastMicrosecond).encode .date = .ok (some [255, 255, 255, 255]) ∧
    (⟨"at", .date⟩ : PgColumn).decode 0 100 (some [255, 255, 255, 255]) =
      .ok (some (.timestamp (.ofDate lastMicrosecond.date)), []) ∧
    (Value.time lastMicrosecond.time).encode .date = .error (.mismatch "time" .date) := by
  have hmicros : 1000 ∣ lastMicrosecond.time.nanos := by decide
  have hsecond : lastMicrosecond.time.nanos < 1000000000 := by decide
  have hzoned : bytes .timestamptz lastMicrosecond = [255, 255, 255, 255, 255, 255, 255, 255] := by
    decide
  have hday : bytes .date lastMicrosecond = [255, 255, 255, 255] := by decide
  obtain ⟨-, hbound, hread⟩ := moments_are_bound_and_read_back .timestamptz
    (.timestamp lastMicrosecond) lastMicrosecond rfl hmicros hsecond
  obtain ⟨-, hboundDay, hreadDay⟩ := moments_are_bound_and_read_back .date
    (.timestamp lastMicrosecond) lastMicrosecond rfl hmicros hsecond
  obtain ⟨-, hrefused, -⟩ := moments_are_bound_and_read_back .date
    (.time lastMicrosecond.time) (.ofTime lastMicrosecond.time) rfl hmicros hsecond
  rw [hzoned] at hbound hread
  rw [hday] at hboundDay hreadDay
  exact ⟨hbound, hread "at" 0 100, hboundDay, hreadDay "at" 0 100, hrefused⟩

end TemporalType

end SqlAccess
