import Mathlib.Tactic.IntervalCases
import SqlAccess.Calendar.Basic

/-!
# Days and nanoseconds are counted back

A date is found again from the number of days that it lies after 1970-01-01, before and after that
day, and a timestamp below the leap second from its number of nanoseconds. The parts of a date are
taken out of its number from the largest to the smallest: the era of 400 years, the year of the era,
the month counted from March, and the day.
-/

namespace SqlAccess.Calendar

/-! ## Eras -/

/-- The days before a month, counted from March, of a year that begins with March. -/
def daysBeforeMonth (m : Int) : Int := (153 * m + 2) / 5

/-- The days before a year of an era. Years begin with March. -/
def daysBeforeYear (y : Int) : Int := y * 365 + y / 4 - y / 100

/-- Whether a year that begins with March ends with the leap day. -/
def EndsLeap (y : Int) : Prop := y % 4 = 3 ∧ (y % 100 ≠ 99 ∨ y % 400 = 399)

/-- The centuries before a day of an era; the last day is still one of the fourth century. -/
private theorem centuries_eq {c rest n : Int} (hc : 0 ≤ c ∧ c < 4) (hrest : 0 ≤ rest)
    (hbound : rest < 36524 ∨ rest = 36524 ∧ c = 3) (hn : n = 36524 * c + rest) :
    n / 36524 - n / 146096 = c := by
  obtain hbound | ⟨rfl, rfl⟩ := hbound <;> omega

/-- The year of an era is found from the day of the era: the corrections take away the leap days
before it, which are no days of their own to a division by 365. The division by 1460 takes one day
more where a leap day is near. -/
theorem yearOfEra_eq {y r n : Int} (hy : 0 ≤ y ∧ y < 400) (hr : 0 ≤ r ∧ r ≤ 365)
    (hleap : r = 365 → EndsLeap y) (hn : n = daysBeforeYear y + r) :
    (n - n / 1460 + n / 36524 - n / 146096) / 365 = y := by
  obtain ⟨c, q, s, hparts, hc, hq, hs⟩ : ∃ c q s : Int, y = 100 * c + 4 * q + s ∧
      (0 ≤ c ∧ c < 4) ∧ (0 ≤ q ∧ q < 25) ∧ 0 ≤ s ∧ s < 4 :=
    ⟨y / 100, y % 100 / 4, y % 4, by omega, by omega, by omega, by omega⟩
  have hlast : r = 365 → s = 3 ∧ (q < 24 ∨ c = 3) := by
    intro h
    have := hleap h
    unfold EndsLeap at this
    omega
  have hdays : n = 36524 * c + (1461 * q + 365 * s + r) := by
    unfold daysBeforeYear at hn
    omega
  have hcenturies : n / 36524 - n / 146096 = c :=
    centuries_eq hc (by omega) (by omega) hdays
  obtain ⟨e, he⟩ : ∃ e, (24 * c + q + 365 * s + r) / 1460 = e := ⟨_, rfl⟩
  have hfours : n / 1460 = 25 * c + q + e := by omega
  have hrest : 0 ≤ r - e ∧ r - e < 365 := by omega
  have hcorrected : n - n / 1460 + n / 36524 - n / 146096 = r - e + 365 * y := by
    clear hlast hrest he
    omega
  rw [hcorrected, Int.add_mul_ediv_left _ _ (by decide), Int.ediv_eq_zero_of_lt hrest.1 hrest.2,
    Int.zero_add]

/-- The days of a year of an era stay below the length of the era. -/
theorem dayOfEra_mem {y r : Int} (hy : 0 ≤ y ∧ y < 400) (hr : 0 ≤ r ∧ r ≤ 365)
    (hleap : r = 365 → EndsLeap y) :
    0 ≤ daysBeforeYear y + r ∧ daysBeforeYear y + r < 146097 := by
  unfold daysBeforeYear
  by_cases h : r = 365
  · have := hleap h
    unfold EndsLeap at this
    omega
  · omega

/-- The month is found from the day of the year. -/
private theorem month_eq {m d : Int}
    (hd : 1 ≤ d ∧ daysBeforeMonth m + d ≤ daysBeforeMonth (m + 1)) :
    (5 * (daysBeforeMonth m + d - 1) + 2) / 153 = m := by
  unfold daysBeforeMonth at hd ⊢
  omega

namespace Date

/-- The month of a date counted from March. -/
def monthFromMarch (d : Date) : Int := ((d.month + 9) % 12 : Nat)

/-- The year that began with the last March. -/
def marchYear (d : Date) : Int := if d.month ≤ 2 then d.year - 1 else d.year

/-- The days since the last March began. -/
def marchDay (d : Date) : Int := daysBeforeMonth d.monthFromMarch + d.day - 1

/-- The number of a day counts whole periods of 400 years and the days since the last one began. -/
theorem dayNumber_eq (d : Date) : d.dayNumber =
    d.marchYear / 400 * 146097 + (daysBeforeYear (d.marchYear % 400) + d.marchDay) - 719468 := rfl

/-- A month leaves room for its days before the next one. -/
theorem day_mem_month (d : Date) : 1 ≤ (d.day : Int) ∧
    daysBeforeMonth d.monthFromMarch + d.day ≤ daysBeforeMonth (d.monthFromMarch + 1) := by
  obtain ⟨year, month, day, -, hm, hd⟩ := d
  obtain ⟨hlow, hhigh⟩ := hm
  unfold daysInMonth at hd
  simp only [monthFromMarch, daysBeforeMonth]
  refine ⟨by omega, ?_⟩
  by_cases hleap : isLeapYear year = true <;> interval_cases month <;> simp [hleap] at hd ⊢ <;> omega

/-- A year that begins with March has at most 366 days, and so many only if it ends leap. -/
theorem marchDay_mem (d : Date) : (0 ≤ d.marchDay ∧ d.marchDay ≤ 365) ∧
    (d.marchDay = 365 → EndsLeap (d.marchYear % 400)) := by
  have hm := d.month_mem
  have hd := d.day_mem
  unfold daysInMonth at hd
  unfold marchDay daysBeforeMonth monthFromMarch EndsLeap marchYear
  split at hd
  · split at hd
    · rename_i hfeb hleap
      simp only [isLeapYear, Bool.and_eq_true, Bool.or_eq_true, decide_eq_true_eq] at hleap
      simp only [hfeb]
      omega
    · omega
  · split at hd <;> omega

/-- The month is counted from January again. -/
theorem month_ofMarch (d : Date) :
    (if d.monthFromMarch < 10 then d.monthFromMarch + 3 else d.monthFromMarch - 9) = d.month := by
  have := d.month_mem
  unfold monthFromMarch
  omega

/-- The year begins with January again. -/
theorem year_ofMarch (d : Date) :
    d.marchYear % 400 + d.marchYear / 400 * 400 + (if (d.month : Int) ≤ 2 then 1 else 0) =
      d.year := by
  unfold marchYear
  omega

/-- A date is found again from its number. -/
theorem ofDayNumber?_dayNumber (d : Date) : ofDayNumber? d.dayNumber = some d := by
  obtain ⟨hday, hleap⟩ := d.marchDay_mem
  have hyear : 0 ≤ d.marchYear % 400 ∧ d.marchYear % 400 < 400 := by omega
  have hera := dayOfEra_mem hyear hday hleap
  have hz : d.dayNumber + 719468 = daysBeforeYear (d.marchYear % 400) + d.marchDay +
      d.marchYear / 400 * 146097 := by
    rw [dayNumber_eq]
    omega
  have hnumber : (d.dayNumber + 719468) / 146097 = d.marchYear / 400 ∧
      (d.dayNumber + 719468) % 146097 = daysBeforeYear (d.marchYear % 400) + d.marchDay := by
    omega
  have hrest : daysBeforeYear (d.marchYear % 400) + d.marchDay -
      (365 * (d.marchYear % 400) + d.marchYear % 400 / 4 - d.marchYear % 400 / 100) =
        d.marchDay := by
    unfold daysBeforeYear
    omega
  have hmonth : (5 * d.marchDay + 2) / 153 = d.monthFromMarch := month_eq d.day_mem_month
  have hdate : d.marchDay - (153 * d.monthFromMarch + 2) / 5 + 1 = d.day := by
    unfold marchDay daysBeforeMonth
    omega
  simp only [ofDayNumber?, hnumber, yearOfEra_eq hyear hday hleap rfl, hrest, hmonth, hdate,
    month_ofMarch, year_ofMarch, Int.toNat_natCast]
  exact d.ofParts?_self

/-- The numbers of all dates lie in a range that leaves room for the microseconds of a day. -/
theorem dayNumber_mem (d : Date) : -100000000 ≤ d.dayNumber ∧ d.dayNumber < 100000000 := by
  obtain ⟨hday, hleap⟩ := d.marchDay_mem
  have hyear := d.year_mem
  have hera := dayOfEra_mem (y := d.marchYear % 400) (by omega) hday hleap
  have hmarch : -262144 ≤ d.marchYear ∧ d.marchYear ≤ 262142 := by
    unfold inYears at hyear
    unfold marchYear
    omega
  rw [dayNumber_eq]
  omega

end Date

/-! ## Nanoseconds -/

/-- A time of day below the leap second is found again from its number of nanoseconds. -/
theorem Time.ofNanoOfDay_nanoOfDay {t : Time} (h : t.nanos < 1000000000) :
    ofNanoOfDay t.nanoOfDay = t := by
  cases t with
  | mk hour minute second nanos hhour hminute hsecond hnanos =>
    simp only [ofNanoOfDay, ofSecondOfDay, nanoOfDay, secondOfDay, Time.mk.injEq] at h ⊢
    omega

/-- A time of day below the leap second lies in its day. -/
theorem Time.nanoOfDay_lt {t : Time} (h : t.nanos < 1000000000) : t.nanoOfDay < 86400000000000 := by
  have hhour := t.hour_lt
  have hminute := t.minute_lt
  have hsecond := t.second_lt
  unfold nanoOfDay secondOfDay
  omega

/-- A timestamp below the leap second is found again from its number of nanoseconds. -/
theorem Timestamp.ofNanoNumber?_nanoNumber {t : Timestamp} (h : t.time.nanos < 1000000000) :
    ofNanoNumber? t.nanoNumber = some t := by
  have hlt := Time.nanoOfDay_lt h
  have hday : t.nanoNumber / 86400000000000 = t.date.dayNumber := by
    unfold nanoNumber
    omega
  have hrest : (t.nanoNumber % 86400000000000).toNat = t.time.nanoOfDay := by
    unfold nanoNumber
    omega
  rw [ofNanoNumber?, hday, hrest, t.date.ofDayNumber?_dayNumber, Option.map_some,
    Time.ofNanoOfDay_nanoOfDay h]

end SqlAccess.Calendar
