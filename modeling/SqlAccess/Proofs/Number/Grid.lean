import Mathlib.Data.Nat.Dist
import SqlAccess.Proofs.Number.Shortest

/-!
# Decimal grids and large numbers

The interval of a number that is a multiple of four has whole numbers as its bounds, and the grids
that are searched for its shortest digits are the multiples of the powers of ten. Only the two
neighbours of the number on a grid are looked at: the interval reaches both ways, so any other point
of the grid in it has a neighbour in it as well, and that one is nearer. The search stops at the
first grid with a point, and its digits and zeros are the decimal notation of that point.
-/

namespace SqlAccess.Number

/-! ## Neighbours -/

/-- A whole number is nearer to a third than another, or the larger of two at one distance. -/
def Preferred (center a b : Nat) : Prop :=
  Nat.dist a center < Nat.dist b center ∨ Nat.dist a center = Nat.dist b center ∧ b ≤ a

section Preferred

variable {center a b c : Nat}

/-- A point is preferred to itself. -/
theorem Preferred.refl (center a : Nat) : Preferred center a a := .inr ⟨rfl, Nat.le_refl a⟩

/-- What is preferred to a preferred point is preferred to the first. -/
theorem Preferred.trans (hab : Preferred center a b) (hbc : Preferred center b c) :
    Preferred center a c := by
  unfold Preferred at *
  omega

/-- Two points that are preferred to each other are the same. -/
theorem Preferred.antisymm (hab : Preferred center a b) (hba : Preferred center b a) : a = b := by
  unfold Preferred at *
  omega

/-- Of two points below the center the upper one is preferred. -/
private theorem preferred_of_below (hba : b ≤ a) (ha : a ≤ center) : Preferred center a b := by
  unfold Preferred Nat.dist
  omega

/-- Of two points above the center the lower one is preferred. -/
private theorem preferred_of_above (ha : center ≤ a) (hab : a ≤ b) : Preferred center a b := by
  unfold Preferred Nat.dist
  omega

end Preferred

namespace Interval

variable {i : Interval} {c d k m : Nat}

/-- The bounds of the interval are whole numbers, and the number lies between them. -/
structure Whole (i : Interval) : Prop extends i.Positive where
  below_pos : 0 < i.below
  den : i.den = 1

/-- The number that the interval belongs to. -/
def center (i : Interval) : Nat := i.value * i.num

/-- A whole number lies in the interval. -/
def Holds (i : Interval) (c : Nat) : Prop :=
  if i.closed then (i.value - i.below) * i.num ≤ c ∧ c ≤ (i.value + 2) * i.num
  else (i.value - i.below) * i.num < c ∧ c < (i.value + 2) * i.num

/-- The lower end of an interval lies below its center. -/
theorem Whole.low_lt_center (h : i.Whole) : (i.value - i.below) * i.num < i.center :=
  Nat.mul_lt_mul_of_pos_right (Nat.sub_lt (Nat.zero_lt_of_lt h.below) h.below_pos) h.num

/-- The upper end of an interval lies above its center. -/
theorem Whole.center_lt_high (h : i.Whole) : i.center < (i.value + 2) * i.num :=
  Nat.mul_lt_mul_of_pos_right (Nat.lt_add_of_pos_right (by omega)) h.num

/-- What an interval holds lies between its ends, or at one of them. -/
theorem Holds.mem (hc : i.Holds c) :
    (i.value - i.below) * i.num ≤ c ∧ c ≤ (i.value + 2) * i.num := by
  unfold Holds at hc
  split at hc
  · exact hc
  · exact ⟨Nat.le_of_lt hc.1, Nat.le_of_lt hc.2⟩

/-- What lies between the number and a whole number in the interval lies there too. -/
theorem Holds.between_below (h : i.Whole) (hc : i.Holds c) (hcm : c ≤ m) (hm : m ≤ i.center) :
    i.Holds m := by
  have hhigh := h.center_lt_high
  unfold Holds at hc ⊢
  by_cases hclosed : i.closed = true
  · rw [if_pos hclosed] at hc ⊢
    omega
  · rw [if_neg hclosed] at hc ⊢
    omega

/-- Between the center and a point above it that it holds, an interval holds every point. -/
theorem Holds.between_above (h : i.Whole) (hc : i.Holds c) (hmc : m ≤ c) (hm : i.center ≤ m) :
    i.Holds m := by
  have hlow := h.low_lt_center
  unfold Holds at hc ⊢
  by_cases hclosed : i.closed = true
  · rw [if_pos hclosed] at hc ⊢
    omega
  · rw [if_neg hclosed] at hc ⊢
    omega

/-- A point of a grid of whole numbers is tested for what the interval holds. -/
theorem contains_natCast (h : i.Whole) : i.contains d k = true ↔ i.Holds (d * 10 ^ k) := by
  simp [contains, scaled, Holds, h.den]

/-- A point of a grid of whole numbers that fails the test is not held. -/
theorem contains_natCast_eq_false (h : i.Whole) :
    i.contains d k = false ↔ ¬i.Holds (d * 10 ^ k) := by
  rw [Bool.eq_false_iff, ne_eq, contains_natCast h]

/-- The last point of a grid of whole numbers below the center is found by division. -/
private theorem floorOn_natCast (h : i.Whole) : i.floorOn k = i.center / 10 ^ k := by
  simp [floorOn, scaled, h.den, center]

/-- Of two neighbours on a grid of whole numbers the upper one is nearer if the middle between them
is not above the center. -/
private theorem aboveIsNearer_natCast (h : i.Whole) :
    i.aboveIsNearer d k = true ↔ (2 * d + 1) * 10 ^ k ≤ 2 * i.center := by
  simp [aboveIsNearer, scaled, h.den, center]

/-- The number lies between its neighbours on a grid. -/
theorem center_mem (i : Interval) (k : Nat) :
    i.center / 10 ^ k * 10 ^ k ≤ i.center ∧ i.center < (i.center / 10 ^ k + 1) * 10 ^ k :=
  ⟨Nat.div_mul_le_self _ _,
    (Nat.div_lt_iff_lt_mul (Nat.pow_pos (by decide))).mp (Nat.lt_succ_self _)⟩

/-- A grid with a point in the interval has a neighbour of the number there, on the same side. -/
theorem holds_neighbour (h : i.Whole) (hm : i.Holds (m * 10 ^ k)) :
    m ≤ i.center / 10 ^ k ∧ i.Holds (i.center / 10 ^ k * 10 ^ k) ∨
      i.center / 10 ^ k < m ∧ i.Holds ((i.center / 10 ^ k + 1) * 10 ^ k) := by
  obtain ⟨hbelow, habove⟩ := i.center_mem k
  obtain hlt | hle := Nat.lt_or_ge (i.center / 10 ^ k) m
  · exact .inr ⟨hlt, hm.between_above h (Nat.mul_le_mul_right _ hlt) (Nat.le_of_lt habove)⟩
  · exact .inl ⟨hle, hm.between_below h (Nat.mul_le_mul_right _ hle) hbelow⟩

/-- A number that is preferred to both neighbours is preferred to all points of their grid. -/
theorem preferred_of_neighbours (h : i.Whole) {a : Nat}
    (hbelow : i.Holds (i.center / 10 ^ k * 10 ^ k) →
      Preferred i.center a (i.center / 10 ^ k * 10 ^ k))
    (habove : i.Holds ((i.center / 10 ^ k + 1) * 10 ^ k) →
      Preferred i.center a ((i.center / 10 ^ k + 1) * 10 ^ k))
    (hm : i.Holds (m * 10 ^ k)) : Preferred i.center a (m * 10 ^ k) := by
  obtain ⟨hlow, hhigh⟩ := i.center_mem k
  obtain ⟨hle, hholds⟩ | ⟨hlt, hholds⟩ := holds_neighbour h hm
  · exact (hbelow hholds).trans (preferred_of_below (Nat.mul_le_mul_right _ hle) hlow)
  · exact (habove hholds).trans
      (preferred_of_above (Nat.le_of_lt hhigh) (Nat.mul_le_mul_right _ hlt))

/-- The neighbour above is preferred exactly if it is no farther. -/
theorem preferred_neighbour (h : i.Whole) (k : Nat) :
    if i.aboveIsNearer (i.center / 10 ^ k) k then
      Preferred i.center ((i.center / 10 ^ k + 1) * 10 ^ k) (i.center / 10 ^ k * 10 ^ k)
    else Preferred i.center (i.center / 10 ^ k * 10 ^ k) ((i.center / 10 ^ k + 1) * 10 ^ k) := by
  obtain ⟨hlow, hhigh⟩ := i.center_mem k
  have hnear := aboveIsNearer_natCast h (d := i.center / 10 ^ k) (k := k)
  generalize i.center / 10 ^ k = f at *
  have hnext : (f + 1) * 10 ^ k = f * 10 ^ k + 10 ^ k := Nat.succ_mul _ _
  have htwice : (2 * f + 1) * 10 ^ k = 2 * (f * 10 ^ k) + 10 ^ k := by
    rw [Nat.succ_mul, Nat.mul_assoc]
  rw [htwice] at hnear
  unfold Preferred Nat.dist
  split
  · rename_i hup
    have hle := hnear.mp hup
    omega
  · rename_i hdown
    have hlt := mt hnear.mpr hdown
    omega

/-! ## The search -/

/-- A grid on which no neighbour of the number lies in the interval has no point there. -/
theorem not_holds_of_pointOn_eq_none (h : i.Whole) (hpoint : i.pointOn k = none) :
    ¬i.Holds (m * 10 ^ k) := by
  intro hm
  simp only [pointOn, floorOn_natCast h] at hpoint
  split at hpoint
  · cases hpoint
  · cases hpoint
  · cases hpoint
  · rename_i hbelow habove
    rw [contains_natCast_eq_false h] at hbelow habove
    obtain ⟨-, hholds⟩ | ⟨-, hholds⟩ := holds_neighbour h hm
    · exact hbelow hholds
    · exact habove hholds

/-- The point that is taken of a grid lies in the interval and is preferred to the others. -/
theorem pointOn_eq_some (h : i.Whole) (hpoint : i.pointOn k = some d) :
    i.Holds (d * 10 ^ k) ∧
      ∀ m, i.Holds (m * 10 ^ k) → Preferred i.center (d * 10 ^ k) (m * 10 ^ k) := by
  have hself := Preferred.refl i.center
  have hnear := preferred_neighbour h k
  simp only [pointOn, floorOn_natCast h] at hpoint
  split at hpoint
  · rename_i hbelow habove
    rw [contains_natCast h] at hbelow habove
    obtain rfl := Option.some.inj hpoint
    by_cases hup : i.aboveIsNearer (i.center / 10 ^ k) k = true
    · rw [if_pos hup] at hnear ⊢
      exact ⟨habove, fun m => preferred_of_neighbours h (fun _ => hnear) fun _ => hself _⟩
    · rw [if_neg hup] at hnear ⊢
      exact ⟨hbelow, fun m => preferred_of_neighbours h (fun _ => hself _) fun _ => hnear⟩
  · rename_i hbelow habove
    rw [contains_natCast h] at hbelow
    rw [contains_natCast_eq_false h] at habove
    obtain rfl := Option.some.inj hpoint
    exact ⟨hbelow, fun m => preferred_of_neighbours h (fun _ => hself _) fun hin =>
      absurd hin habove⟩
  · rename_i hbelow habove
    rw [contains_natCast_eq_false h] at hbelow
    rw [contains_natCast h] at habove
    obtain rfl := Option.some.inj hpoint
    exact ⟨habove, fun m => preferred_of_neighbours h (fun hin => absurd hin hbelow) fun _ =>
      hself _⟩
  · cases hpoint

/-- The search ends at the first grid with a point, and takes that point; up to there the grid that
is known to have one is still ahead. -/
theorem search_eq (h : i.Whole) {leading : Int} (hm : i.Holds (m * 10 ^ k)) (fuel : Nat)
    {count q : Nat} (hq : leading + 1 - count = q) (hkq : k ≤ q) (hfuel : q < k + fuel) :
    ∃ d p : Nat, i.search leading count fuel = ⟨d, p⟩ ∧ i.pointOn p = some d ∧ k ≤ p ∧
      ∀ r, p < r → r ≤ q → ∀ n, ¬i.Holds (n * 10 ^ r) := by
  induction fuel generalizing count q with
  | zero => omega
  | succ fuel ih =>
    rw [search, hq]
    cases hpoint : i.pointOn q with
    | some d => exact ⟨d, q, rfl, hpoint, hkq, fun r hlt hle => by omega⟩
    | none =>
      have hnone (n : Nat) : ¬i.Holds (n * 10 ^ q) := not_holds_of_pointOn_eq_none h hpoint
      have hne : k ≠ q := by
        rintro rfl
        exact hnone m hm
      obtain ⟨d, p, hsearch, hd, hkp, hcoarse⟩ :=
        ih (show leading + 1 - (count + 1 : Nat) = (q - 1 : Nat) by omega) (by omega) (by omega)
      refine ⟨d, p, hsearch, hd, hkp, fun r hlt hle => ?_⟩
      by_cases hr : r = q
      · rwa [hr]
      · exact hcoarse r hlt (by omega)

end Interval

/-! ## Digits and zeros -/

namespace Decimals

/-- Zeros are moved from the digits into the power, and the number stays. -/
theorem normalize_eq (fuel d p : Nat) :
    ∃ a q : Nat, (Decimals.mk d p).normalize fuel = ⟨a, q⟩ ∧ a * 10 ^ q = d * 10 ^ p := by
  induction fuel generalizing d p with
  | zero => exact ⟨d, p, rfl, rfl⟩
  | succ fuel ih =>
    rw [normalize]
    split
    · rename_i hten
      obtain ⟨a, q, hnormal, hvalue⟩ := ih (d / 10) (p + 1)
      refine ⟨a, q, hnormal, ?_⟩
      rw [hvalue, Nat.pow_succ, Nat.mul_comm (10 ^ p), ← Nat.mul_assoc,
        Nat.div_mul_cancel (Nat.dvd_of_mod_eq_zero hten.2)]
    · exact ⟨d, p, rfl, rfl⟩

/-- A power of ten puts as many zeros behind the digits of a number. -/
theorem toDigits_mul_pow {a : Nat} (ha : 0 < a) (q : Nat) :
    Nat.toDigits 10 (a * 10 ^ q) = Nat.toDigits 10 a ++ List.replicate q '0' := by
  induction q with
  | zero => simp
  | succ q ih =>
    have hpos : 0 < a * 10 ^ q := Nat.mul_pos ha (Nat.pow_pos (by decide))
    have hten : 10 * (a * 10 ^ q) + 0 = a * 10 ^ (q + 1) := by
      rw [Nat.add_zero, Nat.mul_comm, Nat.mul_assoc, Nat.pow_succ]
    rw [← hten, ← Nat.toDigits_append_toDigits (by decide) hpos (by decide), ih,
      List.append_assoc, Nat.toDigits_zero, List.replicate_succ']

/-- Digits with zeros behind them are the decimal notation of their number. -/
theorem positional_natCast {a : Nat} (ha : 0 < a) (q : Nat) :
    (Decimals.mk a q).positional = toString (a * 10 ^ q) := by
  simp only [positional, Int.natCast_nonneg, if_true, Int.toNat_natCast]
  rw [Nat.toString_eq_repr, Nat.repr_eq_ofList_toDigits, toDigits_mul_pow ha]

end Decimals

/-- A decimal notation is that of one number. -/
theorem toString_nat_inj {a b : Nat} : toString a = toString b ↔ a = b := by
  constructor
  · intro h
    have hdigits : Nat.toDigits 10 a = Nat.toDigits 10 b := by
      rw [← Nat.toList_repr, ← Nat.toList_repr, ← Nat.toString_eq_repr, h, Nat.toString_eq_repr]
    calc a = Nat.ofDigitChars 10 (Nat.toDigits 10 a) 0 :=
          (Nat.ofDigitChars_toDigits (by decide) (by decide)).symm
      _ = Nat.ofDigitChars 10 (Nat.toDigits 10 b) 0 := by rw [hdigits]
      _ = b := Nat.ofDigitChars_toDigits (by decide) (by decide)
  · rintro rfl
    rfl

end SqlAccess.Number
