import Mathlib.Data.Prod.Lex
import Mathlib.Algebra.Order.Ring.Nat
import SqlAccess.Proofs.Calendar.DayNumber
import SqlAccess.Proofs.Calendar.ReadBack
import SqlAccess.Value

/-!
# Compact texts are in the order of time

The compact text of a date, a time of day or a timestamp is compared as text. With a year of four
digits it has fourteen digits, and digits of one length are in the order of their numbers. The number
of a compact text in turn is in the order of the second in which the moment lies: the numbers of
days follow year, month and day, and a leap second, written as second 60, stands between second 59
and the next minute.
-/

namespace SqlAccess

namespace Calendar

/-! ## Digits -/

/-- Digits in front of others count by the number of these. -/
theorem digitsValue_append (cs ds : List Char) :
    digitsValue (cs ++ ds) = 10 ^ ds.length * digitsValue cs + digitsValue ds := by
  simp only [digitsValue_eq_ofDigitChars, Nat.ofDigitChars_append]
  exact Nat.ofDigitChars_eq_ofDigitChars_zero

private theorem digitsValue_singleton (c : Char) : digitsValue [c] = c.toNat - 48 := by
  simp [digitsValue]

/-- The first digit counts for the power of ten of those that follow. -/
private theorem digitsValue_cons (c : Char) (cs : List Char) :
    digitsValue (c :: cs) = 10 ^ cs.length * (c.toNat - 48) + digitsValue cs := by
  rw [← List.singleton_append, digitsValue_append, digitsValue_singleton]

/-- A numeral is less than the power of ten with as many zeros as it has digits. -/
theorem digitsValue_lt {cs : List Char} (h : IsDigits cs) : digitsValue cs < 10 ^ cs.length := by
  induction cs with
  | nil => decide
  | cons c cs ih =>
    have hc := isDigit_iff.mp (h c List.mem_cons_self)
    have hcs := ih fun d hd => h d (List.mem_cons_of_mem c hd)
    have hdigit : 10 ^ cs.length * (c.toNat - 48) ≤ 10 ^ cs.length * 9 :=
      Nat.mul_le_mul_left _ (by omega)
    rw [digitsValue_cons, List.length_cons, pow_succ]
    omega

/-- Digits of one length are in the order of their numbers. -/
theorem lt_iff_digitsValue_lt {cs ds : List Char} (hlen : cs.length = ds.length) (hc : IsDigits cs)
    (hd : IsDigits ds) : cs < ds ↔ digitsValue cs < digitsValue ds := by
  induction cs generalizing ds with
  | nil =>
    obtain rfl : ds = [] := List.length_eq_zero_iff.mp hlen.symm
    simp
  | cons c cs ih =>
    obtain ⟨d, ds, rfl⟩ := List.exists_cons_of_length_eq_add_one hlen.symm
    have hlen : cs.length = ds.length := Nat.succ.inj hlen
    have hcs : IsDigits cs := fun x hx => hc x (List.mem_cons_of_mem c hx)
    have hds : IsDigits ds := fun x hx => hd x (List.mem_cons_of_mem d hx)
    have hc := isDigit_iff.mp (hc c List.mem_cons_self)
    have hd := isDigit_iff.mp (hd d List.mem_cons_self)
    have hrest := digitsValue_lt hcs
    have hrest' := digitsValue_lt hds
    rw [List.cons_lt_cons_iff, ih hlen hcs hds, digitsValue_cons, digitsValue_cons, hlen,
      Char.lt_def, UInt32.lt_iff_toNat_lt, ← Char.toNat_inj]
    rw [hlen] at hrest
    change c.toNat < d.toNat ∨ _ ↔ _
    rcases Nat.lt_trichotomy c.toNat d.toNat with hlt | heq | hgt
    · have hstep : 10 ^ ds.length * (c.toNat - 48 + 1) ≤ 10 ^ ds.length * (d.toNat - 48) :=
        Nat.mul_le_mul_left _ (by omega)
      rw [Nat.mul_add] at hstep
      omega
    · rw [heq]
      omega
    · have hstep : 10 ^ ds.length * (d.toNat - 48 + 1) ≤ 10 ^ ds.length * (c.toNat - 48) :=
        Nat.mul_le_mul_left _ (by omega)
      rw [Nat.mul_add] at hstep
      omega

/-! ## Days -/

/-- The days before a year that begins with March. -/
def daysBeforeMarchYear (y : Int) : Int := 365 * y + y / 4 - y / 100 + y / 400

/-- A year has 365 days, and one more if it ends with the leap day. -/
private theorem daysBeforeMarchYear_succ (y : Int) :
    daysBeforeMarchYear y + 365 ≤ daysBeforeMarchYear (y + 1) ∧
      (EndsLeap (y % 400) → daysBeforeMarchYear y + 366 ≤ daysBeforeMarchYear (y + 1)) := by
  unfold daysBeforeMarchYear EndsLeap
  constructor <;> omega

/-- A later year that starts in March starts on a later day. -/
private theorem daysBeforeMarchYear_mono {y z : Int} (h : y ≤ z) :
    daysBeforeMarchYear y ≤ daysBeforeMarchYear z := by
  induction z, h using Int.leInduction with
  | base => exact Int.le_refl _
  | succ z _ ih => exact Int.le_trans ih (by have := (daysBeforeMarchYear_succ z).1; omega)

namespace Date

/-- The number of a day counts the days before its year and those within it. -/
private theorem dayNumber_eq_daysBefore (d : Date) :
    d.dayNumber = daysBeforeMarchYear d.marchYear + d.marchDay - 719468 := by
  rw [dayNumber_eq]
  unfold daysBeforeYear daysBeforeMarchYear
  omega

/-- A year leaves room for its days before the next one. -/
theorem marchDay_lt (d : Date) :
    daysBeforeMarchYear d.marchYear + d.marchDay < daysBeforeMarchYear (d.marchYear + 1) := by
  obtain ⟨hday, hleap⟩ := d.marchDay_mem
  obtain ⟨hyear, hlong⟩ := daysBeforeMarchYear_succ d.marchYear
  by_cases hlast : d.marchDay = 365
  · have := hlong (hleap hlast)
    omega
  · omega

/-- A date stands before another. -/
def Precedes (a b : Date) : Prop :=
  a.year < b.year ∨ a.year = b.year ∧ (a.month < b.month ∨ a.month = b.month ∧ a.day < b.day)

/-- Of two dates the one with the earlier year, month or day has the smaller number. -/
theorem dayNumber_lt {a b : Date} (h : a.Precedes b) : a.dayNumber < b.dayNumber := by
  have hmonths : a.marchYear < b.marchYear ∨ a.marchYear = b.marchYear ∧
      (a.monthFromMarch < b.monthFromMarch ∨
        a.monthFromMarch = b.monthFromMarch ∧ a.day < b.day) := by
    have ha := a.month_mem
    have hb := b.month_mem
    unfold Precedes at h
    unfold marchYear monthFromMarch
    omega
  rw [dayNumber_eq_daysBefore, dayNumber_eq_daysBefore]
  rcases hmonths with hyear | ⟨hyear, hmonth | ⟨hmonth, hday⟩⟩
  · have hnext := daysBeforeMarchYear_mono hyear
    have hlast := a.marchDay_lt
    have hfirst := b.marchDay_mem.1.1
    change daysBeforeMarchYear (a.marchYear + 1) ≤ _ at hnext
    omega
  · have ha := a.day_mem_month
    have hb := b.day_mem_month
    unfold daysBeforeMonth at ha
    rw [hyear]
    unfold marchDay daysBeforeMonth
    omega
  · rw [hyear]
    unfold marchDay
    rw [hmonth]
    omega

private theorem eq_of_parts {a b : Date} (hy : a.year = b.year) (hm : a.month = b.month)
    (hd : a.day = b.day) : a = b := by
  cases a
  cases b
  cases hy
  cases hm
  cases hd
  rfl

/-- Dates are in the order of their numbers. -/
theorem dayNumber_lt_iff {a b : Date} : a.dayNumber < b.dayNumber ↔ a.Precedes b := by
  refine ⟨fun h => ?_, dayNumber_lt⟩
  by_contra hn
  by_cases hba : b.Precedes a
  · exact absurd (dayNumber_lt hba) (Int.not_lt.mpr (Int.le_of_lt h))
  · have heq : a = b := by
      unfold Precedes at hn hba
      exact eq_of_parts (by omega) (by omega) (by omega)
    rw [heq] at h
    exact Int.lt_irrefl _ h

end Date

/-! ## Seconds -/

/-- The second in which a timestamp lies, counted from the start of 1970. A leap second behind
second 59 is a second of its own: it has the number of that second and comes after it. One that a
zone has moved to another second runs on into the next. -/
def Timestamp.wholeSecond (t : Timestamp) : Int ×ₗ Nat :=
  let second := t.nanoNumber / 1000000000
  if t.time.second = 59 ∧ 1000000000 ≤ t.time.nanos then toLex (second - 1, 1)
  else toLex (second, 0)

/-! ## Compact texts -/

/-- Year, month and day as one number. -/
def Date.numeral (d : Date) : Nat := (d.year.toNat * 100 + d.month) * 100 + d.day

/-- Hour, minute and written second as one number. -/
def Time.numeral (t : Time) : Nat := (t.hour * 100 + t.minute) * 100 + t.writtenSecond

/-- No second is written above 60. -/
theorem Time.writtenSecond_le (t : Time) : t.writtenSecond ≤ 60 := by
  have := t.second_lt
  have := t.nanos_lt
  unfold writtenSecond
  omega

/-- A time is written with six digits. -/
theorem Time.numeral_lt (t : Time) : t.numeral < 1000000 := by
  have := t.hour_lt
  have := t.minute_lt
  have := t.writtenSecond_le
  unfold numeral
  omega

/-- Dates from the year 0 on are in the order of their numerals. -/
theorem Date.numeral_lt_iff {a b : Date} (ha : 0 ≤ a.year) (hb : 0 ≤ b.year) :
    a.numeral < b.numeral ↔ a.dayNumber < b.dayNumber := by
  have hma := a.month_mem
  have hmb := b.month_mem
  have hda := a.day_le_31
  have hdb := b.day_le_31
  rw [dayNumber_lt_iff]
  unfold Precedes numeral
  omega

/-- The whole seconds of a moment are those of its day and its time, and a leap second on top. -/
theorem Timestamp.nanoNumber_div (t : Timestamp) : t.nanoNumber / 1000000000 =
    t.date.dayNumber * 86400 + t.time.secondOfDay + (t.time.nanos / 1000000000 : Nat) := by
  unfold nanoNumber Time.nanoOfDay
  omega

/-- Timestamps from the year 0 on are by the second in the order of their numerals. -/
theorem Timestamp.wholeSecond_lt_iff {s t : Timestamp} (hs : 0 ≤ s.date.year)
    (ht : 0 ≤ t.date.year) : s.wholeSecond < t.wholeSecond ↔
      s.date.numeral * 1000000 + s.time.numeral < t.date.numeral * 1000000 + t.time.numeral := by
  have hlt := Date.numeral_lt_iff hs ht
  have hgt := Date.numeral_lt_iff ht hs
  have hsn := s.time.numeral_lt
  have htn := t.time.numeral_lt
  have hdates : s.date.numeral * 1000000 + s.time.numeral <
      t.date.numeral * 1000000 + t.time.numeral ↔ s.date.dayNumber < t.date.dayNumber ∨
        s.date.dayNumber = t.date.dayNumber ∧ s.time.numeral < t.time.numeral := by
    omega
  rw [hdates]
  clear hdates hlt hgt hsn htn
  have hs1 := s.time.minute_lt
  have ht1 := t.time.minute_lt
  have hs2 := s.time.second_lt
  have ht2 := t.time.second_lt
  have hs3 := s.time.nanos_lt
  have ht3 := t.time.nanos_lt
  have hs4 := s.time.hour_lt
  have ht4 := t.time.hour_lt
  simp only [wholeSecond, nanoNumber_div]
  unfold Time.numeral Time.writtenSecond Time.secondOfDay
  split <;> split <;> rw [Prod.Lex.toLex_lt_toLex] <;> simp only <;> omega

/-- Two digits behind others. -/
theorem digitsValue_append_padded (cs : List Char) {n : Nat} (h : n < 100) :
    digitsValue (cs ++ padded 2 n) = digitsValue cs * 100 + n := by
  rw [digitsValue_append, digitsValue_padded, length_padded (by decide) h, Nat.mul_comm]
  rfl

/-- Digits and a padded number are digits. -/
theorem IsDigits.append_padded {cs : List Char} (h : IsDigits cs) (width n : Nat) :
    IsDigits (cs ++ padded width n) := by
  intro c hc
  rcases List.mem_append.mp hc with hc | hc
  · exact h c hc
  · exact isDigits_padded width n c hc

namespace Timestamp

variable {t : Timestamp}

/-- With a year of four digits a compact text has no sign. -/
theorem compactChars_of_year (h : 0 ≤ t.date.year ∧ t.date.year ≤ 9999) : t.compactChars =
    padded 4 t.date.year.toNat ++ padded 2 t.date.month ++ padded 2 t.date.day ++
      padded 2 t.time.hour ++ padded 2 t.time.minute ++ padded 2 t.time.writtenSecond := by
  rw [compactChars, yearChars, if_pos h]

/-- A compact text of a year with at most four digits is made of digits. -/
theorem isDigits_compactChars (h : 0 ≤ t.date.year ∧ t.date.year ≤ 9999) :
    IsDigits t.compactChars := by
  rw [compactChars_of_year h]
  exact (((((isDigits_padded 4 _).append_padded 2 _).append_padded 2 _).append_padded 2
    _).append_padded 2 _).append_padded 2 _

/-- The parts of a timestamp fit two digits each, and a year below 10000 fits four. -/
theorem parts_lt (t : Timestamp) : t.date.month < 100 ∧ t.date.day < 100 ∧ t.time.hour < 100 ∧
    t.time.minute < 100 ∧ t.time.writtenSecond < 100 := by
  have hmonth := t.date.month_mem
  have hday := t.date.day_le_31
  have hhour := t.time.hour_lt
  have hminute := t.time.minute_lt
  have hsecond := t.time.writtenSecond_le
  omega

/-- A compact text of a year with at most four digits has fourteen of them. -/
theorem length_compactChars (h : 0 ≤ t.date.year ∧ t.date.year ≤ 9999) :
    t.compactChars.length = 14 := by
  obtain ⟨hmonth, hday, hhour, hminute, hsecond⟩ := t.parts_lt
  have hyear : t.date.year.toNat < 10000 := by omega
  have htwo {n : Nat} (hn : n < 100) : (padded 2 n).length = 2 := length_padded (by decide) hn
  have hfour : (padded 4 t.date.year.toNat).length = 4 := length_padded (by decide) hyear
  simp only [compactChars_of_year h, List.length_append, hfour, htwo hmonth, htwo hday, htwo hhour,
    htwo hminute, htwo hsecond]

/-- As a number, a compact text is the date before the time. -/
theorem digitsValue_compactChars (h : 0 ≤ t.date.year ∧ t.date.year ≤ 9999) :
    digitsValue t.compactChars = t.date.numeral * 1000000 + t.time.numeral := by
  obtain ⟨hmonth, hday, hhour, hminute, hsecond⟩ := t.parts_lt
  rw [compactChars_of_year h, digitsValue_append_padded _ hsecond,
    digitsValue_append_padded _ hminute, digitsValue_append_padded _ hhour,
    digitsValue_append_padded _ hday, digitsValue_append_padded _ hmonth, digitsValue_padded]
  unfold Date.numeral Time.numeral
  omega

/-- Compact texts are in the order of the seconds they stand for. -/
theorem compact_lt_iff {s t : Timestamp} (hs : 0 ≤ s.date.year ∧ s.date.year ≤ 9999)
    (ht : 0 ≤ t.date.year ∧ t.date.year ≤ 9999) :
    s.compact < t.compact ↔ s.wholeSecond < t.wholeSecond := by
  rw [compact, compact, String.lt_iff, String.toList_ofList, String.toList_ofList,
    lt_iff_digitsValue_lt (by rw [length_compactChars hs, length_compactChars ht])
      (isDigits_compactChars hs) (isDigits_compactChars ht), digitsValue_compactChars hs,
    digitsValue_compactChars ht, wholeSecond_lt_iff hs.1 ht.1]

/-- Texts that stand neither before nor behind one another are equal. -/
theorem compact_eq_iff {s t : Timestamp} (hs : 0 ≤ s.date.year ∧ s.date.year ≤ 9999)
    (ht : 0 ≤ t.date.year ∧ t.date.year ≤ 9999) :
    s.compact = t.compact ↔ s.wholeSecond = t.wholeSecond := by
  have hlt := compact_lt_iff hs ht
  have hgt := compact_lt_iff ht hs
  constructor
  · intro h
    rw [h] at hlt hgt
    rcases lt_trichotomy s.wholeSecond t.wholeSecond with hst | hst | hst
    · exact absurd (hlt.mpr hst) (String.lt_irrefl _)
    · exact hst
    · exact absurd (hgt.mpr hst) (String.lt_irrefl _)
  · intro h
    rw [h] at hlt hgt
    have hle : ¬t.compact < s.compact := mt hgt.mp (lt_irrefl _)
    have hge : ¬s.compact < t.compact := mt hlt.mp (lt_irrefl _)
    exact String.le_antisymm hle hge

end Timestamp

end Calendar

namespace Value

open Calendar

/-- A text of fourteen decimal digits. -/
structure IsCompact (text : String) : Prop where
  length_eq : text.length = 14
  digits : IsDigits text.toList

/-- The compact text of a year with at most four digits is compact. -/
theorem isCompact_compact {t : Timestamp} (h : 0 ≤ t.date.year ∧ t.date.year ≤ 9999) :
    IsCompact t.compact where
  length_eq := by
    rw [← String.length_toList, Timestamp.compact, String.toList_ofList,
      Timestamp.length_compactChars h]
  digits := by
    rw [Timestamp.compact, String.toList_ofList]
    exact Timestamp.isDigits_compactChars h

/-- Of any two dates, times of day or timestamps whose years have four digits, the compact texts are
fourteen digits each and compare like the seconds in which they lie, dates at midnight and times of
day on 1970-01-01. They are equal exactly if both lie in the same second. -/
theorem compact_texts_keep_order (a b : Value) (s t : Timestamp) (ha : a.asTimestamp = some s)
    (hb : b.asTimestamp = some t) (hs : 0 ≤ s.date.year ∧ s.date.year ≤ 9999)
    (ht : 0 ≤ t.date.year ∧ t.date.year ≤ 9999) :
    ∃ x y, (a.compactTimestamp = some x ∧ IsCompact x) ∧
      (b.compactTimestamp = some y ∧ IsCompact y) ∧
      (x < y ↔ s.wholeSecond < t.wholeSecond) ∧ (x = y ↔ s.wholeSecond = t.wholeSecond) := by
  have hx : a.compactTimestamp = some s.compact := by rw [compactTimestamp, ha, Option.map_some]
  have hy : b.compactTimestamp = some t.compact := by rw [compactTimestamp, hb, Option.map_some]
  exact ⟨s.compact, t.compact, ⟨hx, isCompact_compact hs⟩, ⟨hy, isCompact_compact ht⟩,
    Timestamp.compact_lt_iff hs ht, Timestamp.compact_eq_iff hs ht⟩

/-- Half a second into the leap second at the end of 2008. -/
def endOf2008 : Timestamp :=
  ⟨(Date.ofParts? 2008 12 31).get rfl, (Time.ofParts? 23 59 59 1500000000).get rfl⟩

/-- The first day of 2009. -/
def newYear2009 : Date := (Date.ofParts? 2009 1 1).get rfl

/-- A leap second is written as second 60 and comes before the day that follows it. -/
theorem leapSecond_keeps_order :
    (timestamp endOf2008).compactTimestamp = some "20081231235960" ∧
    (date newYear2009).compactTimestamp = some "20090101000000" ∧
    "20081231235960" < "20090101000000" := by
  obtain ⟨x, y, ⟨hx, -⟩, ⟨hy, -⟩, hlt, -⟩ := compact_texts_keep_order (.timestamp endOf2008)
    (.date newYear2009) endOf2008 (.ofDate newYear2009) rfl rfl (by decide) (by decide)
  have hxy : x < y := hlt.mpr (by decide)
  have hleap : (timestamp endOf2008).compactTimestamp = some "20081231235960" := rfl
  have hday : (date newYear2009).compactTimestamp = some "20090101000000" := rfl
  obtain rfl : x = "20081231235960" := Option.some.inj (hx.symm.trans hleap)
  obtain rfl : y = "20090101000000" := Option.some.inj (hy.symm.trans hday)
  exact ⟨hx, hy, hxy⟩

end Value

end SqlAccess
