import SqlAccess.Calendar.Basic

/-!
# Dates and times as text

Numbers are padded with zeros to a fixed width. A year outside 0 to 9999 is written with
a sign and at least four digits. A fraction of a second is written with three,
six or nine places, the fewest that hold it, and not at all when it is zero. A leap
second is second 60.
-/

namespace SqlAccess.Calendar

/-- The decimal digits of a number, padded with zeros on the left. -/
def padded (width n : Nat) : List Char :=
  let digits := Nat.toDigits 10 n
  List.replicate (width - digits.length) '0' ++ digits

/-- Four digits for the years 0 to 9999, otherwise a sign and at least four digits. -/
def yearChars (year : Int) : List Char :=
  if 0 ≤ year ∧ year ≤ 9999 then padded 4 year.toNat
  else (if year < 0 then '-' else '+') :: padded 4 year.natAbs

/-- The fraction of a second after a point, in three, six or nine places. -/
def fractionChars (nanos : Nat) : List Char :=
  let n := nanos % 1000000000
  if n = 0 then []
  else if n % 1000000 = 0 then '.' :: padded 3 (n / 1000000)
  else if n % 1000 = 0 then '.' :: padded 6 (n / 1000)
  else '.' :: padded 9 n

/-- The second as it is written: a leap second is the sixtieth. -/
def Time.writtenSecond (t : Time) : Nat := t.second + t.nanos / 1000000000

/-- The characters of `year-month-day`. -/
def Date.chars (d : Date) : List Char :=
  yearChars d.year ++ '-' :: padded 2 d.month ++ '-' :: padded 2 d.day

/-- The characters of `hour:minute:second` with a fraction where there is one. -/
def Time.chars (t : Time) : List Char :=
  padded 2 t.hour ++ ':' :: padded 2 t.minute ++ ':' :: padded 2 t.writtenSecond ++
    fractionChars t.nanos

/-- The text of a date. -/
def Date.text (d : Date) : String := String.ofList d.chars

/-- The text of a time of day. -/
def Time.text (t : Time) : String := String.ofList t.chars

/-- The text of a timestamp: date and time with a blank between them. -/
def Timestamp.text (t : Timestamp) : String := String.ofList (t.date.chars ++ ' ' :: t.time.chars)

/-- Year, month, day, hour, minute and second without separators. -/
def Timestamp.compactChars (t : Timestamp) : List Char :=
  yearChars t.date.year ++ padded 2 t.date.month ++ padded 2 t.date.day ++
    padded 2 t.time.hour ++ padded 2 t.time.minute ++ padded 2 t.time.writtenSecond

/-- The compact text of a timestamp, to the second. -/
def Timestamp.compact (t : Timestamp) : String := String.ofList t.compactChars

end SqlAccess.Calendar
