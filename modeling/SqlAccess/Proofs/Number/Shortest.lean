import Mathlib.Algebra.Order.Field.Basic
import Mathlib.Algebra.Order.Field.Power
import Mathlib.Data.Rat.Cast.Order
import Mathlib.Tactic.Positivity
import Mathlib.Tactic.Ring
import SqlAccess.Number.Shortest

/-!
# Shortest digits of numbers other than zero

The interval of the decimal numbers that round to a floating-point number other than zero does not
reach zero, and the grids that are searched for its shortest digits are no coarser than the leading
digit of the number. So wherever the search ends, its digits are not all zero, and the zeros that
are removed at their right leave some.
-/

namespace SqlAccess.Number

/-! ## Ratios -/

/-- The number that a numerator and a denominator stand for. -/
def ratio (r : Nat × Nat) : Rat := r.1 / r.2

/-- A number that is scaled by a power is the product with that power. -/
theorem ratio_scaled (n b : Nat) (e : Int) : ratio (scaled n b e) = n * (b : Rat) ^ e := by
  unfold scaled ratio
  split
  · rename_i he
    obtain ⟨k, rfl⟩ := Int.eq_ofNat_of_zero_le he
    simp [Nat.pow_eq]
  · rename_i he
    obtain ⟨k, rfl⟩ : ∃ k : Nat, e = -k := ⟨(-e).toNat, by omega⟩
    simp [Nat.pow_eq, div_eq_mul_inv]

/-- The denominator of a scaled number is not zero. -/
theorem scaled_snd_pos (n : Nat) {b : Nat} (hb : 0 < b) (e : Int) : 0 < (scaled n b e).2 := by
  unfold scaled
  split
  · exact Nat.one_pos
  · exact Nat.pow_pos hb

/-- The numerator of a positive number stays positive when it is scaled. -/
theorem scaled_fst_pos {n b : Nat} (hn : 0 < n) (hb : 0 < b) (e : Int) :
    0 < (scaled n b e).1 := by
  unfold scaled
  split
  · exact Nat.mul_pos hn (Nat.pow_pos hb)
  · exact hn

private theorem scaled_zero_fst (b : Nat) (e : Int) : (scaled 0 b e).1 = 0 := by
  unfold scaled
  split
  · exact Nat.zero_mul _
  · rfl

/-! ## The leading digit -/

/-- A number is at least the power of ten with as many digits. -/
theorem pow_digitCount_le {n : Nat} (hn : 0 < n) : 10 ^ (digitCount n - 1) ≤ n := by
  by_cases hk : digitCount n - 1 = 0
  · rw [hk]
    exact hn
  · have hlong : ¬digitCount n ≤ digitCount n - 1 := by omega
    exact Nat.le_of_not_lt
      (mt (Nat.length_toDigits_le_iff (by decide) (Nat.pos_of_ne_zero hk)).mpr hlong)

/-- Every number has a digit. -/
theorem digitCount_pos (n : Nat) : 0 < digitCount n :=
  List.length_pos_of_ne_nil Nat.toDigits_ne_nil

/-- A number is less than the power of ten with one digit more than it has. -/
theorem lt_pow_digitCount (n : Nat) : n < 10 ^ digitCount n :=
  (Nat.length_toDigits_le_iff (by decide) (digitCount_pos n)).mp (Nat.le_refl _)

/-- A ratio is no smaller than the power of ten of its leading digit. -/
theorem zpow_floorLog10_le {num den : Nat} (hnum : 0 < num) (hden : 0 < den) :
    (10 : Rat) ^ floorLog10 num den ≤ ratio (num, den) := by
  have hden' : (0 : Rat) < den := by exact_mod_cast hden
  rw [ratio, le_div_iff₀ hden', floorLog10]
  split
  · rename_i hle
    have hq : 0 < num / den := Nat.div_pos hle hden
    have hpos := digitCount_pos (num / den)
    rw [← Int.natCast_pred_of_pos hpos, zpow_natCast]
    have hpow : 10 ^ (digitCount (num / den) - 1) * den ≤ num :=
      (Nat.le_div_iff_mul_le hden).mp (pow_digitCount_le hq)
    exact_mod_cast hpow
  · have hpow : den ≤ 10 ^ digitCount ((den - 1) / num) * num := by
      have := (Nat.div_lt_iff_lt_mul hnum).mp (lt_pow_digitCount ((den - 1) / num))
      omega
    rw [zpow_neg, zpow_natCast, inv_mul_le_iff₀ (by positivity)]
    exact_mod_cast hpow

/-! ## The search -/

namespace Interval

variable {i : Interval}

/-- The numbers that round to a number other than zero. -/
structure Positive (i : Interval) : Prop where
  below : i.below < i.value
  num : 0 < i.num

/-- An interval of positive numbers does not hold zero. -/
private theorem contains_zero (h : i.Positive) (power : Int) : i.contains 0 power = false := by
  have hlow : 0 < (i.value - i.below) * i.num * (scaled 0 10 power).2 :=
    Nat.mul_pos (Nat.mul_pos (Nat.sub_pos_of_lt h.below) h.num) (scaled_snd_pos 0 (by decide) power)
  have hne : ¬(i.value - i.below) * i.num * (scaled 0 10 power).2 ≤ 0 := Nat.not_le_of_lt hlow
  simp only [contains, scaled_zero_fst, Nat.zero_mul, hne, Nat.not_lt_zero, decide_false,
    Bool.false_and, ite_self]

/-- A point in an interval of positive numbers is not zero. -/
theorem pointOn_ne_zero (h : i.Positive) {power : Int} {digits : Nat}
    (hpoint : i.pointOn power = some digits) : digits ≠ 0 := by
  have hzero {n : Nat} (hn : i.contains n power = true) : n ≠ 0 := by
    rintro rfl
    rw [contains_zero h] at hn
    cases hn
  simp only [pointOn] at hpoint
  split at hpoint
  · rename_i hbelow hnext
    rw [← Option.some.inj hpoint]
    split
    · exact hzero hnext
    · exact hzero hbelow
  · rename_i hbelow hnext
    exact Option.some.inj hpoint ▸ hzero hbelow
  · rename_i hbelow hnext
    exact Option.some.inj hpoint ▸ hzero hnext
  · cases hpoint

/-- A grid no coarser than the leading digit has a point other than zero at or below the value. -/
theorem floorOn_ne_zero (hden : 0 < i.den) {power : Int}
    (h : (10 : Rat) ^ power ≤ i.value * ratio (i.num, i.den)) : i.floorOn power ≠ 0 := by
  have hden' : (0 : Rat) < i.den := by exact_mod_cast hden
  have htd := scaled_snd_pos 1 (by decide : 0 < 10) power
  have htn := scaled_fst_pos Nat.one_pos (by decide : 0 < 10) power
  have htd' : (0 : Rat) < (scaled 1 10 power).2 := by exact_mod_cast htd
  have hten : (10 : Rat) ^ power = ratio (scaled 1 10 power) := by
    rw [ratio_scaled, Nat.cast_one, one_mul, Nat.cast_ofNat]
  rw [hten, ratio, ratio, ← mul_div_assoc, div_le_div_iff₀ htd' hden'] at h
  have hle : (scaled 1 10 power).1 * i.den ≤ i.value * i.num * (scaled 1 10 power).2 := by
    exact_mod_cast h
  rw [Nat.mul_comm] at hle
  exact Nat.ne_of_gt (Nat.div_pos hle (Nat.mul_pos hden htn))

/-- The search in an interval of positive numbers never ends at zero: if no grid has a point in the
interval, the last one is still finer than the leading digit. -/
theorem search_ne_zero (h : i.Positive) (hden : 0 < i.den) {leading : Int}
    (hleading : (10 : Rat) ^ leading ≤ i.value * ratio (i.num, i.den)) (fuel : Nat) {count : Nat}
    (hcount : 0 < count) : (i.search leading count fuel).digits ≠ 0 := by
  induction fuel generalizing count with
  | zero =>
    have hfine : leading + 1 - count ≤ leading := by omega
    exact floorOn_ne_zero hden ((zpow_le_zpow_right₀ (by norm_num) hfine).trans hleading)
  | succ fuel ih =>
    rw [search]
    split
    · rename_i hpoint
      exact pointOn_ne_zero h hpoint
    · exact ih (Nat.succ_pos count)

end Interval

/-- Zeros at the right are removed only where another digit is left. -/
theorem Decimals.normalize_ne_zero {d : Decimals} (h : d.digits ≠ 0) (fuel : Nat) :
    (d.normalize fuel).digits ≠ 0 := by
  induction fuel generalizing d with
  | zero => exact h
  | succ fuel ih =>
    rw [normalize]
    split
    · rename_i hten
      exact ih (Nat.ne_of_gt (Nat.div_pos (Nat.le_of_dvd (Nat.pos_of_ne_zero h)
        (Nat.dvd_of_mod_eq_zero hten.2)) (by decide)))
    · exact h

namespace Layout

/-- The interval of a number other than zero is positive. -/
theorem interval_positive (l : Layout) {mantissa : Nat} (hm : 0 < mantissa) (power : Int) :
    (l.interval mantissa power).Positive where
  below := by
    simp only [interval]
    split <;> omega
  num := scaled_fst_pos Nat.one_pos (by decide) _

private theorem interval_den_pos (l : Layout) (mantissa : Nat) (power : Int) :
    0 < (l.interval mantissa power).den :=
  scaled_snd_pos 1 (by decide) _

/-- The value of the interval is the number itself. -/
theorem interval_value (l : Layout) (mantissa : Nat) (power : Int) :
    ((l.interval mantissa power).value : Rat) *
        ratio ((l.interval mantissa power).num, (l.interval mantissa power).den) =
      ratio (scaled mantissa 2 power) := by
  have hscale : ratio ((l.interval mantissa power).num, (l.interval mantissa power).den) =
      (2 : Rat) ^ (power - 2) := by
    have h := ratio_scaled 1 2 (power - 2)
    rw [Nat.cast_one, one_mul] at h
    exact h
  rw [hscale, ratio_scaled, zpow_sub₀ (by norm_num : (2 : Rat) ≠ 0)]
  simp only [interval]
  push_cast
  ring

/-- The shortest digits of a number other than zero are not all zero. -/
theorem shortest_digits_ne_zero (l : Layout) {mantissa : Nat} (hm : mantissa ≠ 0) (power : Int) :
    (l.shortest mantissa power).digits ≠ 0 := by
  have hpos := Nat.pos_of_ne_zero hm
  rw [shortest, if_neg hm]
  refine Decimals.normalize_ne_zero (Interval.search_ne_zero (l.interval_positive hpos power)
    (l.interval_den_pos mantissa power) ?_ 17 Nat.one_pos) 20
  rw [interval_value]
  exact zpow_floorLog10_le (scaled_fst_pos hpos (by decide) power)
    (scaled_snd_pos mantissa (by decide) power)

/-- Digits that are zero have no power. -/
theorem shortest_power_eq_zero (l : Layout) {mantissa : Nat} {power : Int}
    (h : (l.shortest mantissa power).digits = 0) : (l.shortest mantissa power).power = 0 := by
  by_cases hm : mantissa = 0
  · rw [shortest, if_pos hm]
  · exact absurd h (l.shortest_digits_ne_zero hm power)

end Layout

end SqlAccess.Number
