import Mathlib.Data.List.TakeWhile
import Mathlib.Tactic.SplitIfs
import SqlAccess.Calendar.Reading
import SqlAccess.Calendar.Text

/-!
# Dates and times are read back

Digits padded to the width of a number are read back as the number, whatever follows them. So a date
of a four-digit year is read back from its text, a time of day from its parts, and a fraction of a
second counts by its places.
-/

namespace SqlAccess.Calendar

open Text (isBlank)

/-! ## Digits -/

/-- A text of decimal digits. -/
def IsDigits (cs : List Char) : Prop := ∀ c ∈ cs, c.isDigit = true

/-- The number that decimal digits stand for. -/
def digitsValue (cs : List Char) : Nat := cs.foldl (fun n c => n * 10 + (c.toNat - 48)) 0

/-- The digits are the characters from 48 to 57. -/
theorem isDigit_iff {c : Char} : c.isDigit = true ↔ 48 ≤ c.toNat ∧ c.toNat ≤ 57 := by
  simp only [Char.isDigit, Bool.and_eq_true, decide_eq_true_eq, UInt32.le_iff_toNat_le]
  exact Iff.rfl

/-- No digit is blank. -/
theorem isBlank_of_isDigit {c : Char} (h : c.isDigit = true) : isBlank c = false := by
  have := isDigit_iff.mp h
  simp only [isBlank, Bool.or_eq_false_iff, Bool.and_eq_false_iff, decide_eq_false_iff_not,
    beq_eq_false_iff_ne]
  omega

/-- What follows digits of which `width` may be read does not go on with them. -/
def EndsDigits (width : Nat) (digits rest : List Char) : Prop :=
  digits.length ≤ width ∧ ∀ c ∈ (rest.take (width - digits.length)).head?, c.isDigit = false

/-- Digits that fill the width end, whatever follows. -/
private theorem endsDigits_of_length_eq {width : Nat} {digits : List Char}
    (h : digits.length = width) (rest : List Char) : EndsDigits width digits rest := by
  simp [EndsDigits, h]

/-- Digits end before a character that is none. -/
theorem endsDigits_cons {width : Nat} {digits : List Char} {c : Char} (h : digits.length ≤ width)
    (hc : c.isDigit = false) (rest : List Char) : EndsDigits width digits (c :: rest) := by
  refine ⟨h, fun d hd => ?_⟩
  cases hk : width - digits.length with
  | zero => simp [hk] at hd
  | succ k =>
    obtain rfl : c = d := by simpa [hk] using hd
    exact hc

/-- Digits are taken up to their end. -/
theorem takeWhile_isDigit_take {width : Nat} {digits rest : List Char} (hd : IsDigits digits)
    (he : EndsDigits width digits rest) :
    ((digits ++ rest).take width).takeWhile Char.isDigit = digits := by
  rw [List.take_append, List.take_of_length_le he.1, List.takeWhile_append_of_pos hd]
  have hend := he.2
  cases hrest : rest.take (width - digits.length) with
  | nil => simp
  | cons c _ => simp [hend c (by simp [hrest])]

/-- Digits are not skipped like blanks. -/
private theorem dropWhile_isBlank_digits {digits : List Char} (hne : digits ≠ [])
    (hd : IsDigits digits)
    (rest : List Char) : (digits ++ rest).dropWhile isBlank = digits ++ rest := by
  obtain ⟨c, digits, rfl⟩ := List.exists_cons_of_ne_nil hne
  exact List.dropWhile_cons_of_neg (by simp [isBlank_of_isDigit (hd c List.mem_cons_self)])

/-- Digits are read as their number. -/
private theorem readNumber_digits {width : Nat} {digits rest : List Char} (hne : digits ≠ [])
    (hd : IsDigits digits) (he : EndsDigits width digits rest) :
    readNumber width (digits ++ rest) = some (digitsValue digits, rest) := by
  simp only [readNumber, dropWhile_isBlank_digits hne hd, takeWhile_isDigit_take hd he,
    List.isEmpty_iff, hne, if_false, List.drop_left]
  rfl

/-- Digits without a sign are read as a year. -/
theorem readYear_digits {digits rest : List Char} (hne : digits ≠ []) (hd : IsDigits digits)
    (he : EndsDigits 4 digits rest) :
    readYear (digits ++ rest) = some (↑(digitsValue digits), rest) := by
  have hhead {c : Char} {cs : List Char} (h : digits ++ rest = c :: cs) : c.isDigit = true := by
    obtain ⟨d, digits, rfl⟩ := List.exists_cons_of_ne_nil hne
    exact (List.cons.inj h).1 ▸ hd d List.mem_cons_self
  rw [readYear, dropWhile_isBlank_digits hne hd]
  split
  · rename_i h
    exact absurd (hhead h) (by decide)
  · rename_i h
    exact absurd (hhead h) (by decide)
  · rw [readNumber_digits hne hd he]
    rfl

/-! ## Padded numbers -/

/-- A padded number is made of digits. -/
theorem isDigits_padded (width n : Nat) : IsDigits (padded width n) := by
  intro c hc
  rcases List.mem_append.mp hc with hc | hc
  · rw [List.eq_of_mem_replicate hc]
    decide
  · exact Nat.isDigit_of_mem_toDigits (by decide) (by decide) hc

private theorem padded_ne_nil (width n : Nat) : padded width n ≠ [] :=
  List.append_ne_nil_of_right_ne_nil _ Nat.toDigits_ne_nil

/-- A number that fits into a width is padded to exactly that width. -/
theorem length_padded {width n : Nat} (hw : 0 < width) (hn : n < Nat.pow 10 width) :
    (padded width n).length = width := by
  have hle : (Nat.toDigits 10 n).length ≤ width :=
    (Nat.length_toDigits_le_iff (by decide) hw).mpr hn
  rw [padded, List.length_append, List.length_replicate]
  omega

/-- A numeral is read like the numbers of the standard library. -/
theorem digitsValue_eq_ofDigitChars (cs : List Char) :
    digitsValue cs = Nat.ofDigitChars 10 cs 0 := by
  simp only [digitsValue, Nat.ofDigitChars, Nat.mul_comm]
  rfl

/-- Zeros in front of a number do not change it. -/
private theorem digitsValue_replicate_append (k : Nat) (cs : List Char) :
    digitsValue (List.replicate k '0' ++ cs) = digitsValue cs := by
  induction k with
  | zero => rfl
  | succ k ih => exact ih

/-- A padded number reads as itself. -/
theorem digitsValue_padded (width n : Nat) : digitsValue (padded width n) = n := by
  rw [padded, digitsValue_replicate_append, digitsValue_eq_ofDigitChars]
  exact Nat.ofDigitChars_toDigits (by decide) (by decide)

/-- A padded number is read back, whatever follows it. -/
theorem readNumber_padded {width n : Nat} (hw : 0 < width) (hn : n < Nat.pow 10 width)
    (rest : List Char) : readNumber width (padded width n ++ rest) = some (n, rest) := by
  rw [readNumber_digits (padded_ne_nil width n) (isDigits_padded width n)
    (endsDigits_of_length_eq (length_padded hw hn) rest), digitsValue_padded]

/-! ## Dates -/

namespace Date

/-- No month has more than 31 days. -/
theorem day_le_31 (d : Date) : d.day ≤ 31 := by
  have := d.day_mem.2
  unfold daysInMonth at this
  split_ifs at this <;> omega

end Date

/-- A date of a four-digit year is read back, whatever follows it. -/
theorem readDate_chars {d : Date} (h : 0 ≤ d.year ∧ d.year ≤ 9999) (rest : List Char) :
    readDate (d.chars ++ rest) = some (d, rest) := by
  have hyear : (d.year.toNat : Int) = d.year := Int.toNat_of_nonneg h.1
  have hdigits : d.year.toNat < Nat.pow 10 4 := by
    change _ < 10000
    omega
  have hmonth : d.month < Nat.pow 10 2 := Nat.lt_of_le_of_lt d.month_mem.2 (by decide)
  have hday : d.day < Nat.pow 10 2 := Nat.lt_of_le_of_lt d.day_le_31 (by decide)
  simp only [Date.chars, yearChars, if_pos h, List.append_assoc, List.cons_append, readDate]
  rw [readYear_digits (padded_ne_nil _ _) (isDigits_padded _ _)
    (endsDigits_of_length_eq (length_padded (by decide) hdigits) _)]
  simp only [digitsValue_padded, Option.bind_eq_bind, Option.bind_some, after, if_true,
    readNumber_padded (by decide) hmonth, readNumber_padded (by decide) hday, hyear,
    d.ofParts?_self]
  rfl

/-! ## Times of day -/

/-- The characters of a fraction of a second with a number of places, none for no places. -/
def placesChars (places fraction : Nat) : List Char :=
  if places = 0 then [] else '.' :: padded places fraction

/-- The characters of a clock: hour, minute, second and a fraction of so many places. -/
def clockChars (hour minute second places fraction : Nat) : List Char :=
  padded 2 hour ++ ':' :: padded 2 minute ++ ':' :: padded 2 second ++ placesChars places fraction

/-- A fraction of a second counts by its places. -/
theorem readFraction_placesChars {places fraction : Nat} (hp : places ≤ 9)
    (hf : fraction < Nat.pow 10 places) :
    readFraction (placesChars places fraction) = some (fraction * Nat.pow 10 (9 - places), []) := by
  rcases Nat.eq_zero_or_pos places with rfl | hpos
  · obtain rfl : fraction = 0 := Nat.lt_one_iff.mp hf
    rfl
  have hlen : (padded places fraction).length = places := length_padded hpos hf
  have htake : (padded places fraction).take 9 = padded places fraction :=
    List.take_of_length_le (Nat.le_trans (Nat.le_of_eq hlen) hp)
  have hwhile : (padded places fraction).takeWhile Char.isDigit = padded places fraction :=
    List.takeWhile_eq_self_iff.mpr (isDigits_padded places fraction)
  have hdrop : (padded places fraction).dropWhile Char.isDigit = [] :=
    List.dropWhile_eq_nil_iff.mpr (isDigits_padded places fraction)
  have hvalue := digitsValue_padded places fraction
  rw [placesChars, if_neg (Nat.ne_of_gt hpos), readFraction, htake, hwhile, hdrop, hlen,
    if_neg (by simp [padded_ne_nil])]
  rw [digitsValue] at hvalue
  simp only [hvalue]

/-- A time of day may stand behind a blank. -/
private theorem readTime_blank (cs : List Char) : readTime (' ' :: cs) = readTime cs := by
  have : readNumber 2 (' ' :: cs) = readNumber 2 cs := rfl
  rw [readTime, this, readTime]

/-- A clock below the leap second is read as its time of day. -/
theorem readTime_clockChars {t : Time} {places fraction : Nat} (hp : places ≤ 9)
    (hf : fraction < Nat.pow 10 places) (hn : t.nanos = fraction * Nat.pow 10 (9 - places))
    (ht : t.nanos < 1000000000) :
    readTime (clockChars t.hour t.minute t.second places fraction) = some (t, []) := by
  have hhour : t.hour < Nat.pow 10 2 := Nat.lt_trans t.hour_lt (by decide)
  have hminute : t.minute < Nat.pow 10 2 := Nat.lt_trans t.minute_lt (by decide)
  have hsecond : t.second < Nat.pow 10 2 := Nat.lt_trans t.second_lt (by decide)
  simp only [clockChars, List.append_assoc, List.cons_append, readTime]
  rw [readNumber_padded (by decide) hhour]
  simp only [Option.bind_eq_bind, Option.bind_some, after, if_true,
    readNumber_padded (by decide) hminute, readNumber_padded (by decide) hsecond,
    readFraction_placesChars hp hf, if_neg (Nat.ne_of_lt t.second_lt), ← hn,
    Time.ofParts?_self (.inl ht)]
  rfl

/-! ## Timestamps -/

/-- A date alone is read as its first moment. -/
theorem Timestamp.read_date {d : Date} (h : 0 ≤ d.year ∧ d.year ≤ 9999) :
    Timestamp.read d.chars = some (.ofDate d) := by
  have hdate : readDate d.chars = some (d, []) := by simpa using readDate_chars h []
  rw [Timestamp.read, hdate]
  rfl

/-- A date and a clock below the leap second are read as their timestamp. -/
theorem Timestamp.read_date_clock {d : Date} {t : Time} {places fraction : Nat}
    (h : 0 ≤ d.year ∧ d.year ≤ 9999) (hp : places ≤ 9) (hf : fraction < Nat.pow 10 places)
    (hn : t.nanos = fraction * Nat.pow 10 (9 - places)) (ht : t.nanos < 1000000000) :
    Timestamp.read (d.chars ++ ' ' :: clockChars t.hour t.minute t.second places fraction) =
      some ⟨d, t⟩ := by
  rw [Timestamp.read, readDate_chars h]
  simp only [Option.bind_eq_bind, Option.bind_some, List.isEmpty_cons, Bool.false_eq_true, if_false,
    readTime_blank, readTime_clockChars hp hf hn ht]
  rfl

/-- A clock alone is no timestamp: what would be its year ends with a colon. -/
theorem Timestamp.read_clock {hour : Nat} (h : hour < 24) (minute second places fraction : Nat) :
    Timestamp.read (clockChars hour minute second places fraction) = none := by
  have hlen : (padded 2 hour).length ≤ 4 := by
    rw [length_padded (by decide) (Nat.lt_trans h (by decide))]
    decide
  simp only [clockChars, List.append_assoc, List.cons_append, Timestamp.read, readDate]
  rw [readYear_digits (padded_ne_nil _ _) (isDigits_padded _ _)
    (endsDigits_cons hlen (by decide) _)]
  rfl

end SqlAccess.Calendar
