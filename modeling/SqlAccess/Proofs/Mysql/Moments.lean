import SqlAccess.Proofs.Mysql.Temporal

/-!
# Moments as MySQL parameters and cells

A moment is bound in parts, down to its microseconds, and a temporal column makes a timestamp of the
parts again. So every moment of the years 0 to 65535 comes back rounded down to whole microseconds,
a leap second as a leap second. Only a leap second that no clock shows is refused.
-/

namespace SqlAccess

open Calendar

namespace Calendar.Time

/-- Whether a clock shows a time of day: only second 59 has a leap second behind it. -/
def IsShown (t : Time) : Prop := t.nanos < 1000000000 ∨ t.second = 59

instance (t : Time) : Decidable t.IsShown := inferInstanceAs (Decidable (_ ∨ _))

/-- A time of day rounded down to whole microseconds. -/
def wholeMicros (t : Time) : Time :=
  { t with
    nanos := t.nanos / 1000 * 1000
    nanos_lt := by have := t.nanos_lt; omega }

/-- Midnight is shown as any other time. -/
theorem isShown_midnight : midnight.IsShown := .inl (by decide)

/-- Rounding down to whole microseconds makes no leap second. -/
theorem isShown_wholeMicros {t : Time} : t.wholeMicros.IsShown ↔ t.IsShown := by
  simp only [IsShown, wholeMicros]
  omega

/-- A time that no clock shows is not made of its parts. -/
theorem ofParts?_eq_none {t : Time} (h : ¬t.IsShown) :
    ofParts? t.hour t.minute t.second t.nanos = none :=
  dif_neg fun hparts => h hparts.2

end Calendar.Time

namespace Mysql

/-- The parts of a time of day are those of the time rounded down. -/
theorem ofParts?_time (t : Time) :
    Time.ofParts? (UInt8.ofNat t.hour).toNat (UInt8.ofNat t.minute).toNat
      (UInt8.ofNat t.second).toNat ((UInt32.ofNat (t.nanos / 1000)).toNat * 1000) =
      if t.IsShown then some t.wholeMicros else none := by
  have hmicros : (UInt32.ofNat (t.nanos / 1000)).toNat = t.nanos / 1000 :=
    UInt32.toNat_ofNat_of_lt' (Nat.lt_of_le_of_lt (Nat.div_le_self _ _)
      (Nat.lt_trans t.nanos_lt (by decide)))
  rw [toNat_ofNat_of_lt_60 (Nat.lt_trans t.hour_lt (by decide)), toNat_ofNat_of_lt_60 t.minute_lt,
    toNat_ofNat_of_lt_60 t.second_lt, hmicros]
  by_cases h : t.IsShown
  · rw [if_pos h]
    exact Time.ofParts?_self (Time.isShown_wholeMicros.mpr h)
  · rw [if_neg h]
    exact Time.ofParts?_eq_none (t := t.wholeMicros) (mt Time.isShown_wholeMicros.mp h)

/-- The years that two bytes hold go out whole. -/
theorem toNat_year {year : Int} (h : 0 ≤ year ∧ year < 65536) :
    (year % 65536).toNat = year.toNat := by
  rw [Int.emod_eq_of_lt h.1 h.2]

/-- The moment of a parameter is read from its wire form where a clock shows it. -/
theorem readTemporal_encode {v : Value} {t : Timestamp} (hv : v.asTimestamp = some t)
    (hyear : 0 ≤ t.date.year ∧ t.date.year < 65536) (hshown : t.time.IsShown) :
    readTemporal (encode v) = .ok (some ⟨t.date, t.time.wholeMicros⟩) := by
  cases v <;> cases hv
  case timestamp =>
    rw [encode, toNat_year hyear, readTemporal_date hyear, ofParts?_time, if_pos hshown]
    rfl
  case date d =>
    have hyear : 0 ≤ d.year ∧ d.year < 65536 := hyear
    have hparts := (ofParts?_time Time.midnight).trans (if_pos Time.isShown_midnight)
    rw [encode, toNat_year hyear, readTemporal_date hyear]
    exact congrArg (Option.elim · _ _) hparts
  case time c =>
    have hparts := (ofParts?_time c).trans (if_pos hshown)
    simp only [encode, readTemporal, hparts]
    rfl

/-- A moment that no clock shows is refused. -/
theorem readTemporal_encode_refused {v : Value} {t : Timestamp} (hv : v.asTimestamp = some t)
    (hyear : 0 ≤ t.date.year ∧ t.date.year < 65536) (hshown : ¬t.time.IsShown) :
    ∃ fault, readTemporal (encode v) = .error fault := by
  cases v <;> cases hv
  case timestamp =>
    refine ⟨.noDate, ?_⟩
    rw [encode, toNat_year hyear, readTemporal_date hyear, ofParts?_time, if_neg hshown]
    rfl
  case date d => exact absurd Time.isShown_midnight hshown
  case time c =>
    have hparts := (ofParts?_time c).trans (if_neg hshown)
    refine ⟨.noTime, ?_⟩
    simp only [encode, readTemporal, hparts]
    rfl

/-- Parameters of a moment are not NULL. -/
private theorem encode_ne_null {v : Value} {t : Timestamp} (hv : v.asTimestamp = some t) :
    encode v ≠ .null := by
  intro h
  cases v <;> cases hv <;> cases h

/-- Every moment of the years 0 to 65535 that a clock shows is bound as a parameter that a temporal
column reads back, rounded down to whole microseconds: leap seconds are kept, dates are midnight and
times of day lie on 1970-01-01. Any other moment of these years is refused and never
read as another one. -/
theorem moments_are_read_back (column : String) (maxBlob : Nat) (v : Value) (t : Timestamp)
    (hv : v.asTimestamp = some t) (hyear : 0 ≤ t.date.year ∧ t.date.year ≤ 65535) :
    (t.time.IsShown → decode column .temporal maxBlob (encode v) =
      .ok (some (.timestamp ⟨t.date, t.time.wholeMicros⟩), [])) ∧
    (¬t.time.IsShown → ∃ fault : CellFault, decode column .temporal maxBlob (encode v) =
      .error (.decode column fault.message)) := by
  have hyear : 0 ≤ t.date.year ∧ t.date.year < 65536 := by omega
  rw [decode_temporal (encode_ne_null hv)]
  refine ⟨fun hshown => ?_, fun hshown => ?_⟩
  · rw [readTemporal_encode hv hyear hshown]
    rfl
  · obtain ⟨fault, hfault⟩ := readTemporal_encode_refused hv hyear hshown
    exact ⟨fault, by rw [hfault]⟩

/-- The leap second at the end of 2016, between two microseconds. -/
def leapSecond : Timestamp :=
  ⟨(Date.ofParts? 2016 12 31).get rfl, (Time.ofParts? 23 59 59 1123456789).get rfl⟩

/-- A leap second that a zone has moved, and so no clock shows. -/
def movedLeapSecond : Time :=
  ⟨22, 58, 28, 1000000000, by decide, by decide, by decide, by decide⟩

/-- The leap second loses its last three places, the leap day of the year 0 is kept, and a
leap second away from second 59 is refused. -/
theorem leapSecond_is_read_back :
    (∃ t : Timestamp, t.date = leapSecond.date ∧ t.time.second = 59 ∧ t.time.nanos = 1123456000 ∧
      decode "at" .temporal 0 (encode (.timestamp leapSecond)) = .ok (some (.timestamp t), [])) ∧
    (∃ d : Date, d.year = 0 ∧ d.month = 2 ∧ d.day = 29 ∧
      decode "at" .temporal 0 (encode (.date d)) = .ok (some (.timestamp (.ofDate d)), [])) ∧
    ∃ fault : CellFault, decode "at" .temporal 0 (encode (.time movedLeapSecond)) =
      .error (.decode "at" fault.message) := by
  refine ⟨⟨⟨leapSecond.date, leapSecond.time.wholeMicros⟩, rfl, rfl, rfl, ?_⟩,
    ⟨(Date.ofParts? 0 2 29).get rfl, rfl, rfl, rfl, ?_⟩, ?_⟩
  · exact (moments_are_read_back "at" 0 _ leapSecond rfl (by decide)).1 (by decide)
  · exact (moments_are_read_back "at" 0 _ (.ofDate _) rfl (by decide)).1 (by decide)
  · exact (moments_are_read_back "at" 0 _ (.ofTime movedLeapSecond) rfl (by decide)).2 (by decide)

end Mysql

end SqlAccess
