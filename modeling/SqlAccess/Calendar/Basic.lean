/-!
# Dates, times of day and timestamps

A date is a day of the Gregorian calendar, carried back before its introduction, with years
from -262143 to 262142. A time of day has nanoseconds, and a second may last two seconds:
its nanoseconds then reach 1999999999. Clocks only give second 59 that length, but a zone
whose offset has seconds can move it. Days are counted from 1970-01-01.
-/

namespace SqlAccess.Calendar

/-- Whether a year has a twenty-ninth of February. -/
def isLeapYear (year : Int) : Bool := year % 4 = 0 && (year % 100 ≠ 0 || year % 400 = 0)

/-- The number of days of a month. -/
def daysInMonth (year : Int) (month : Nat) : Nat :=
  if month = 2 then (if isLeapYear year then 29 else 28)
  else if month = 4 ∨ month = 6 ∨ month = 9 ∨ month = 11 then 30
  else 31

/-- The first and the last year that a date may lie in. -/
def inYears (year : Int) : Prop := -262143 ≤ year ∧ year ≤ 262142

instance (year : Int) : Decidable (inYears year) := inferInstanceAs (Decidable (_ ∧ _))

/-- A day of the calendar. -/
structure Date where
  year : Int
  month : Nat
  day : Nat
  year_mem : inYears year
  month_mem : 1 ≤ month ∧ month ≤ 12
  day_mem : 1 ≤ day ∧ day ≤ daysInMonth year month
  deriving DecidableEq

/-- A time of day; nanoseconds from 1000000000 on are a leap second after `second`. -/
structure Time where
  hour : Nat
  minute : Nat
  second : Nat
  nanos : Nat
  hour_lt : hour < 24
  minute_lt : minute < 60
  second_lt : second < 60
  nanos_lt : nanos < 2000000000
  deriving DecidableEq

/-- A day and a time on it, without a zone. -/
structure Timestamp where
  date : Date
  time : Time
  deriving DecidableEq

namespace Date

/-- The date with these parts, when there is one. -/
def ofParts? (year : Int) (month day : Nat) : Option Date :=
  if h : inYears year ∧ (1 ≤ month ∧ month ≤ 12) ∧ 1 ≤ day ∧ day ≤ daysInMonth year month then
    some ⟨year, month, day, h.1, h.2.1, h.2.2⟩
  else none

/-- A date is made again of its own parts. -/
theorem ofParts?_self (d : Date) : ofParts? d.year d.month d.day = some d :=
  dif_pos ⟨d.year_mem, d.month_mem, d.day_mem⟩

/-- The first day of 1970. -/
def epoch : Date := ⟨1970, 1, 1, by decide, by decide, by decide⟩

instance : Inhabited Date := ⟨epoch⟩

/-- The number of days from 1970-01-01 to a date. Years are counted from March, so that the
leap day is the last of its year. -/
def dayNumber (d : Date) : Int :=
  let y := if d.month ≤ 2 then d.year - 1 else d.year
  let era := y / 400
  let yearOfEra := y % 400
  let monthFromMarch : Int := ((d.month + 9) % 12 : Nat)
  let dayOfYear := (153 * monthFromMarch + 2) / 5 + d.day - 1
  let dayOfEra := yearOfEra * 365 + yearOfEra / 4 - yearOfEra / 100 + dayOfYear
  era * 146097 + dayOfEra - 719468

/-- The date a number of days after 1970-01-01, when its year is in range. -/
def ofDayNumber? (n : Int) : Option Date :=
  let z := n + 719468
  let era := z / 146097
  let dayOfEra := z % 146097
  let yearOfEra := (dayOfEra - dayOfEra / 1460 + dayOfEra / 36524 - dayOfEra / 146096) / 365
  let dayOfYear := dayOfEra - (365 * yearOfEra + yearOfEra / 4 - yearOfEra / 100)
  let monthFromMarch := (5 * dayOfYear + 2) / 153
  let day := dayOfYear - (153 * monthFromMarch + 2) / 5 + 1
  let month := if monthFromMarch < 10 then monthFromMarch + 3 else monthFromMarch - 9
  let year := yearOfEra + era * 400 + (if month ≤ 2 then 1 else 0)
  ofParts? year month.toNat day.toNat

end Date

namespace Time

/-- The time with these parts, when a clock shows it: only second 59 may be a leap second. -/
def ofParts? (hour minute second nanos : Nat) : Option Time :=
  if h : (hour < 24 ∧ minute < 60 ∧ second < 60 ∧ nanos < 2000000000) ∧
      (nanos < 1000000000 ∨ second = 59) then
    some ⟨hour, minute, second, nanos, h.1.1, h.1.2.1, h.1.2.2.1, h.1.2.2.2⟩
  else none

/-- A time that a clock shows is made again of its own parts. -/
theorem ofParts?_self {t : Time} (h : t.nanos < 1000000000 ∨ t.second = 59) :
    ofParts? t.hour t.minute t.second t.nanos = some t :=
  dif_pos ⟨⟨t.hour_lt, t.minute_lt, t.second_lt, t.nanos_lt⟩, h⟩

/-- The time at a second of the day, going round at its end, with given nanoseconds. -/
def ofSecondOfDay (s : Nat) (nanos : Nat) (h : nanos < 2000000000) : Time :=
  ⟨s / 3600 % 24, s / 60 % 60, s % 60, nanos, by omega, by omega, by omega, h⟩

/-- The start of a day. -/
def midnight : Time := ⟨0, 0, 0, 0, by decide, by decide, by decide, by decide⟩

instance : Inhabited Time := ⟨midnight⟩

/-- The seconds before this one on its day. -/
def secondOfDay (t : Time) : Nat := (t.hour * 60 + t.minute) * 60 + t.second

/-- The nanoseconds from the start of the day; a leap second runs on after second 59. -/
def nanoOfDay (t : Time) : Nat := t.secondOfDay * 1000000000 + t.nanos

/-- The time a number of nanoseconds after midnight, going round at the end of the day. -/
def ofNanoOfDay (n : Nat) : Time :=
  ofSecondOfDay (n / 1000000000) (n % 1000000000) (by omega)

end Time

namespace Timestamp

/-- A date at the start of its day. -/
def ofDate (d : Date) : Timestamp := ⟨d, Time.midnight⟩

/-- A time on the first day of 1970. -/
def ofTime (t : Time) : Timestamp := ⟨Date.epoch, t⟩

instance : Inhabited Timestamp := ⟨ofDate Date.epoch⟩

/-- The nanoseconds from the start of 1970. -/
def nanoNumber (t : Timestamp) : Int :=
  t.date.dayNumber * 86400000000000 + t.time.nanoOfDay

/-- The timestamp a number of nanoseconds after the start of 1970, when its year is in range. -/
def ofNanoNumber? (n : Int) : Option Timestamp :=
  (Date.ofDayNumber? (n / 86400000000000)).map fun d =>
    ⟨d, Time.ofNanoOfDay (n % 86400000000000).toNat⟩

/-- The timestamp a number of whole seconds later; a leap second stays a leap second. -/
def addSeconds? (t : Timestamp) (seconds : Int) : Option Timestamp :=
  let total := t.date.dayNumber * 86400 + t.time.secondOfDay + seconds
  (Date.ofDayNumber? (total / 86400)).map fun d =>
    ⟨d, Time.ofSecondOfDay (total % 86400).toNat t.time.nanos t.time.nanos_lt⟩

end Timestamp

end SqlAccess.Calendar
