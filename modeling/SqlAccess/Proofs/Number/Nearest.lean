import Mathlib.Algebra.Order.Ring.Nat
import SqlAccess.Number.Ieee

/-!
# Integers and their nearest floating-point numbers

The word of the 64-bit number nearest to a positive integer is the sum of its power of two, in the
exponent field, and of its significand of 53 bits. A significand that is rounded up to the next
power of two carries into the exponent, so the sum needs no case of its own.
-/

namespace SqlAccess.Number

namespace Layout

/-! ## Rounding -/

/-- A whole number is within half a unit of a ratio, and the even one of two that are. -/
structure RoundsTo (num den q : Nat) : Prop where
  low : 2 * (q * den) ≤ 2 * num + den
  high : 2 * num ≤ 2 * (q * den) + den
  even : 2 * (q * den) = 2 * num + den ∨ 2 * num = 2 * (q * den) + den → q % 2 = 0

/-- A ratio that is no less than a whole number does not round below it. -/
theorem RoundsTo.ge_of_le {num den q a : Nat} (hden : 0 < den) (hq : RoundsTo num den q)
    (h : a * den ≤ num) : a ≤ q := by
  refine Nat.le_of_not_lt fun hlt => ?_
  have hstep : (q + 1) * den ≤ a * den := Nat.mul_le_mul_right den hlt
  have hhigh := hq.high
  rw [Nat.succ_mul] at hstep
  omega

/-- A ratio that is no more than a whole number does not round above it. -/
theorem RoundsTo.le_of_le {num den q b : Nat} (hden : 0 < den) (hq : RoundsTo num den q)
    (h : num ≤ b * den) : q ≤ b := by
  refine Nat.le_of_not_lt fun hlt => ?_
  have hstep : (b + 1) * den ≤ q * den := Nat.mul_le_mul_right den hlt
  have hlow := hq.low
  rw [Nat.succ_mul] at hstep
  omega

/-- A ratio does not round to a larger whole number as well: the two would be one unit apart with
the ratio halfway, and both even. -/
theorem RoundsTo.le {num den q r : Nat} (hden : 0 < den) (hq : RoundsTo num den q)
    (hr : RoundsTo num den r) : q ≤ r := by
  refine Nat.le_of_not_lt fun hlt => ?_
  have hstep : (r + 1) * den ≤ q * den := Nat.mul_le_mul_right den hlt
  have hunit : (r + 1) * den = r * den + den := Nat.succ_mul r den
  have hlow := hq.low
  have hhigh := hr.high
  have hqeven := hq.even (.inl (by omega))
  have hreven := hr.even (.inr (by omega))
  have hnext : r + 1 = q := Nat.eq_of_mul_eq_mul_right hden (by omega)
  omega

/-- To round half to even is to round to the nearest whole number, of two the even one. -/
theorem roundsTo_roundHalfEven {num den : Nat} (hden : 0 < den) :
    RoundsTo num den (roundHalfEven num den) := by
  have hnum := Nat.div_add_mod' num den
  have hrest := Nat.mod_lt num hden
  have hnext : (num / den + 1) * den = num / den * den + den := Nat.succ_mul _ _
  have hdown (h : 2 * (num % den) ≤ den) (heven : 2 * (num % den) = den → num / den % 2 = 0) :
      RoundsTo num den (num / den) :=
    ⟨by omega, by omega, fun _ => heven (by omega)⟩
  have hup (h : den ≤ 2 * (num % den)) (heven : 2 * (num % den) = den → num / den % 2 ≠ 0) :
      RoundsTo num den (num / den + 1) :=
    ⟨by omega, by omega, fun _ => by have := heven (by omega); omega⟩
  simp only [roundHalfEven]
  split
  · exact hdown (by omega) (by omega)
  · split
    · split
      · exact hdown (by omega) (by omega)
      · exact hup (by omega) (by omega)
    · exact hup (by omega) (by omega)

/-- A quotient is rounded to the nearest whole number, and to the even one of two. -/
theorem roundHalfEven_eq_iff {num den q : Nat} (hden : 0 < den) :
    roundHalfEven num den = q ↔ RoundsTo num den q := by
  have hround : RoundsTo num den (roundHalfEven num den) := roundsTo_roundHalfEven hden
  constructor
  · rintro rfl
    exact hround
  · intro hq
    exact Nat.le_antisymm (hround.le hden hq) (hq.le hden hround)

/-- A whole number is not rounded. -/
theorem roundHalfEven_one (n : Nat) : roundHalfEven n 1 = n :=
  (roundHalfEven_eq_iff Nat.one_pos).mpr ⟨by omega, by omega, by omega⟩

/-! ## Words of integers -/

/-- The significand of the 64-bit number nearest to an integer, before a carry. -/
def significand (c : Nat) : Nat :=
  if 52 ≤ c.log2 then roundHalfEven c (2 ^ (c.log2 - 52)) else c * 2 ^ (52 - c.log2)

/-- The significand has 53 bits, or is the power of two behind them. -/
theorem significand_mem {c : Nat} (hc : c ≠ 0) : 2 ^ 52 ≤ significand c ∧ significand c ≤ 2 ^ 53 := by
  have hlow := Nat.log2_self_le hc
  have hhigh : c ≤ 2 ^ (c.log2 + 1) := Nat.le_of_lt Nat.lt_log2_self
  unfold significand
  split
  · rename_i hlog
    have hunit : 0 < 2 ^ (c.log2 - 52) := Nat.two_pow_pos _
    have hround : RoundsTo c _ _ := roundsTo_roundHalfEven hunit
    constructor
    · refine hround.ge_of_le hunit ?_
      rwa [← Nat.pow_add, Nat.add_sub_cancel' hlog]
    · refine hround.le_of_le hunit ?_
      rwa [← Nat.pow_add, show 53 + (c.log2 - 52) = c.log2 + 1 by omega]
  · rename_i hlog
    constructor
    · calc 2 ^ 52 = 2 ^ c.log2 * 2 ^ (52 - c.log2) := by
            rw [← Nat.pow_add, Nat.add_sub_cancel' (by omega)]
        _ ≤ c * 2 ^ (52 - c.log2) := Nat.mul_le_mul_right _ hlow
    · calc c * 2 ^ (52 - c.log2) ≤ 2 ^ (c.log2 + 1) * 2 ^ (52 - c.log2) :=
            Nat.mul_le_mul_right _ hhigh
        _ = 2 ^ 53 := by rw [← Nat.pow_add, show c.log2 + 1 + (52 - c.log2) = 53 by omega]

/-- The power of two at or below a whole number is read off its bits. -/
theorem floorLog2_one {c : Nat} (hc : c ≠ 0) : floorLog2 c 1 = c.log2 := by
  have hlow := Nat.log2_self_le hc
  have hone : Nat.log2 1 = 0 := by decide
  simp [floorLog2, hone, hlow]

/-- The word nearest to an integer is its power of two with its significand. -/
theorem nearest_one {c : Nat} (hc : c ≠ 0) :
    double.nearest c 1 = min double.infinity ((c.log2 + 1022) * 2 ^ 52 + significand c) := by
  have hmin : double.minPower = -1074 := by decide
  have hfraction : double.fraction = 52 := rfl
  have hpower : max (-1074) ((c.log2 : Int) - (52 : Nat)) = (c.log2 : Int) - 52 := by omega
  have hexponent : ((c.log2 : Int) - 52 - -1074).toNat = c.log2 + 1022 := by omega
  simp only [nearest, if_neg hc, hmin, hfraction, floorLog2_one hc, hpower, hexponent, significand,
    Nat.pow_eq, Nat.one_mul]
  congr 2
  by_cases hlog : 52 ≤ c.log2
  · have hup : (0 : Int) ≤ c.log2 - 52 := by omega
    have hshift : ((c.log2 : Int) - 52).toNat = c.log2 - 52 := by omega
    rw [if_pos hup, if_pos hlog, hshift]
  · have hdown : ¬(0 : Int) ≤ c.log2 - 52 := by omega
    have hshift : (-((c.log2 : Int) - 52)).toNat = 52 - c.log2 := by omega
    rw [if_neg hdown, if_neg hlog, hshift, roundHalfEven_one]

/-- The word of the infinity of doubles has all bits of the exponent. -/
theorem infinity_double : double.infinity = 2047 * 2 ^ 52 := by decide

/-- The word nearest to an integer is no larger than the one of infinity. -/
theorem nearest_one_le (c : Nat) : double.nearest c 1 ≤ double.infinity := by
  by_cases hc : c = 0
  · rw [hc]
    exact Nat.zero_le _
  · rw [nearest_one hc]
    exact Nat.min_le_left _ _

end Layout

namespace Double

/-- A positive integer has no sign bit, and its nearest number is stored by its nearest word. -/
theorem toNat_bits_ofInt (c : Nat) : (ofInt c).bits.toNat = Layout.double.nearest c 1 := by
  have hword : Layout.double.nearest c 1 < 2 ^ 64 := by
    have hle := Layout.nearest_one_le c
    rw [Layout.infinity_double] at hle
    omega
  have hsign : decide ((c : Int) < 0) = false := by simp
  have hencode : Layout.double.encode (.finite false c 0) = Layout.double.nearest c 1 := by
    simp [Layout.encode, Layout.withSign]
  rw [ofInt, hsign, Int.natAbs_natCast, ofDatum, hencode, UInt64.toNat_ofNat_of_lt' hword]

/-- An integer is nearest to the number that its nearest word stores. -/
theorem ofInt_eq_iff {c : Nat} {x : Double} :
    ofInt c = x ↔ Layout.double.nearest c 1 = x.bits.toNat := by
  rw [← toNat_bits_ofInt, UInt64.toNat_inj]
  constructor
  · rintro rfl
    rfl
  · intro h
    exact congrArg Double.mk h

end Double

end SqlAccess.Number
