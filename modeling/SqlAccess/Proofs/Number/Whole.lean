import SqlAccess.Proofs.Number.Grid
import SqlAccess.Proofs.Number.Nearest

/-!
# The whole number that is written for a floating-point number

Floating-point numbers of 64 bits from two to the power of 54 on are multiples of four, and the
interval of each one holds exactly the integers nearest to it. The text of such a number is one of
those integers: none of them ends in more zeros, and of those with as many zeros it is the one
nearest to the number. For the integers in the upper half of a word it ends in three zeros at least.
-/

namespace SqlAccess.Number

/-- A number has at most so many digits exactly if it is below that power of ten. -/
private theorem digitCount_le_iff {n k : Nat} (hk : 0 < k) : digitCount n ≤ k ↔ n < 10 ^ k :=
  Nat.length_toDigits_le_iff (by decide) hk

namespace Layout

variable {m p c : Nat}

/-- The fields of a 64-bit word. -/
theorem decode_double (word : Nat) :
    double.decode word =
      if word / 2 ^ 52 % 2 ^ 11 = 2047 then
        if word % 2 ^ 52 = 0 then .infinite (word / 2 ^ 63 % 2 == 1)
        else .nan (word / 2 ^ 63 % 2 == 1)
      else if word / 2 ^ 52 % 2 ^ 11 = 0 then
        .finite (word / 2 ^ 63 % 2 == 1) (word % 2 ^ 52) (-1074)
      else
        .finite (word / 2 ^ 63 % 2 == 1) (2 ^ 52 + word % 2 ^ 52)
          (-1074 + (word / 2 ^ 52 % 2 ^ 11 - 1 : Nat)) :=
  rfl

/-- A 64-bit word stands for a positive number with a positive power exactly if it is the power
with a significand of 53 bits. -/
theorem decode_eq_finite_iff {word : Nat} (hword : word < 2 ^ 64) (hp : 0 < p) :
    double.decode word = .finite false m p ↔
      word = (p + 1074) * 2 ^ 52 + m ∧ 2 ^ 52 ≤ m ∧ m < 2 ^ 53 ∧ p ≤ 971 := by
  rw [decode_double]
  constructor
  · intro h
    split at h
    · split at h <;> cases h
    · split at h <;> obtain ⟨hsign, hman, hpow⟩ := Datum.finite.inj h
      · omega
      · rw [beq_eq_false_iff_ne] at hsign
        omega
  · rintro ⟨rfl, hlow, hhigh, hp⟩
    rw [if_neg (by omega), if_neg (by omega)]
    congr 1
    · rw [beq_eq_false_iff_ne]
      omega
    · omega
    · omega

/-- The interval of a number that is a multiple of four. -/
theorem interval_natCast (m : Nat) (hp : 2 ≤ p) :
    double.interval m p =
      { value := 4 * m, below := if m = 2 ^ 52 then 1 else 2, closed := m % 2 = 0,
        num := 2 ^ (p - 2), den := 1 } := by
  have hpower : (p : Int) - 2 = (p - 2 : Nat) := by omega
  have hscaled : scaled 1 2 (p - 2 : Nat) = (2 ^ (p - 2), 1) := by simp [scaled]
  rw [interval, hpower, hscaled]
  rfl

/-- The interval of a double whose power of two is at least two has whole ends. -/
theorem whole_interval (hm : 0 < m) (hp : 2 ≤ p) : (double.interval m p).Whole where
  toPositive := interval_positive _ hm _
  below_pos := by
    rw [interval_natCast m hp]
    dsimp only
    split <;> decide
  den := by rw [interval_natCast m hp]

private theorem two_pow_eq_mul (hp : 2 ≤ p) : 2 ^ p = 4 * 2 ^ (p - 2) := by
  rw [show 4 = 2 ^ 2 by rfl, ← Nat.pow_add, Nat.add_sub_cancel' hp]

private theorem two_pow_pred_eq_mul (hp : 2 ≤ p) : 2 ^ (p - 1) = 2 * 2 ^ (p - 2) := by
  rw [show p - 1 = p - 2 + 1 by omega, Nat.pow_succ, Nat.mul_comm]

/-- The center of the interval of a double is its value. -/
theorem center_interval (m : Nat) (hp : 2 ≤ p) : (double.interval m p).center = m * 2 ^ p := by
  rw [interval_natCast m hp, Interval.center, two_pow_eq_mul hp]
  dsimp only
  rw [Nat.mul_comm 4 m, Nat.mul_assoc]

/-! ## Integers in the interval -/

/-- The neighbours of a number other than a power of two are equally far, and the integers in its
interval are those that are rounded to its significand. -/
theorem holds_interval_iff_roundsTo (hm : 2 ^ 52 < m) (hp : 2 ≤ p) :
    (double.interval m p).Holds c ↔ RoundsTo c (2 ^ p) m := by
  rw [interval_natCast m hp, two_pow_eq_mul hp]
  unfold Interval.Holds
  dsimp only
  generalize 2 ^ (p - 2) = u
  have hcenter : m * (4 * u) = 4 * (m * u) := Nat.mul_left_comm m 4 u
  have hlow : (4 * m - 2) * u = 4 * (m * u) - 2 * u := by rw [Nat.sub_mul, Nat.mul_assoc]
  have hhigh : (4 * m + 2) * u = 4 * (m * u) + 2 * u := by rw [Nat.add_mul, Nat.mul_assoc]
  have hpos : 1 * u ≤ m * u := Nat.mul_le_mul_right _ (by omega)
  have hne : m ≠ 2 ^ 52 := by omega
  rw [if_neg hne, hlow, hhigh]
  by_cases heven : m % 2 = 0
  · rw [if_pos (decide_eq_true heven)]
    constructor
    · intro h
      exact ⟨by omega, by omega, fun _ => heven⟩
    · rintro ⟨hl, hh, -⟩
      omega
  · rw [if_neg (by simpa using heven)]
    constructor
    · intro h
      exact ⟨by omega, by omega, by omega⟩
    · rintro ⟨hl, hh, htie⟩
      have hodd := mt htie heven
      omega

/-- The neighbour below a power of two is nearer, and the integers below it are rounded on a grid
twice as fine. -/
theorem holds_interval_two_pow (hp : 2 ≤ p) :
    (double.interval (2 ^ 52 : Nat) p).Holds c ↔
      2 ^ (p + 52) ≤ c ∧ RoundsTo c (2 ^ p) (2 ^ 52) ∨
        c < 2 ^ (p + 52) ∧ RoundsTo c (2 ^ (p - 1)) (2 ^ 53) := by
  rw [interval_natCast _ hp, Nat.pow_add, two_pow_eq_mul hp, two_pow_pred_eq_mul hp]
  unfold Interval.Holds
  dsimp only
  generalize 2 ^ (p - 2) = u
  rw [if_pos rfl, if_pos (by decide)]
  constructor
  · intro h
    by_cases hc : c < 4 * u * 2 ^ 52
    · exact .inr ⟨hc, by omega, by omega, by omega⟩
    · exact .inl ⟨by omega, by omega, by omega, by omega⟩
  · rintro (⟨hc, hl, hh, -⟩ | ⟨hc, hl, hh, -⟩)
    · omega
    · omega

/-- The significand is the one that the number rounds to on the grid of its power of two. -/
theorem significand_eq_iff {e : Nat} (he : c.log2 = e + 52) :
    significand c = m ↔ RoundsTo c (2 ^ e) m := by
  rw [significand, if_pos (by omega), he, Nat.add_sub_cancel,
    roundHalfEven_eq_iff (Nat.two_pow_pos e)]

/-- A significand within the bounds has its word. -/
theorem nearest_one_eq {e : Nat} (hc : c ≠ 0) (he : c.log2 = e + 52) (hs : significand c = m)
    (hfinite : (e + 1074) * 2 ^ 52 + m ≤ 2047 * 2 ^ 52) :
    double.nearest c 1 = (e + 1074) * 2 ^ 52 + m := by
  rw [nearest_one hc, infinity_double, he, hs, show e + 52 + 1022 = e + 1074 by omega,
    Nat.min_eq_right hfinite]

/-- A large number is nearest to the integers that are rounded to its significand; below a power of
two those are rounded up to it from the grid that is twice as fine. -/
theorem nearest_one_eq_iff_roundsTo (hm : 2 ^ 52 ≤ m ∧ m < 2 ^ 53) (hp : 0 < p ∧ p ≤ 971) :
    double.nearest c 1 = (p + 1074) * 2 ^ 52 + m ↔
      2 ^ (p + 52) ≤ c ∧ RoundsTo c (2 ^ p) m ∨
        m = 2 ^ 52 ∧ c < 2 ^ (p + 52) ∧ RoundsTo c (2 ^ (p - 1)) (2 ^ 53) := by
  have hpred : p - 1 + 52 + 1 = p + 52 := by omega
  constructor
  · intro h
    have hc : c ≠ 0 := by
      rintro rfl
      have hzero : double.nearest 0 1 = 0 := rfl
      omega
    rw [nearest_one hc, infinity_double] at h
    obtain ⟨hslow, hshigh⟩ := significand_mem hc
    obtain ⟨he, hs⟩ | ⟨he, hs, hm⟩ : c.log2 = p + 52 ∧ significand c = m ∨
        c.log2 = (p - 1) + 52 ∧ significand c = 2 ^ 53 ∧ m = 2 ^ 52 := by omega
    · refine .inl ⟨?_, (significand_eq_iff he).mp hs⟩
      rw [← he]
      exact Nat.log2_self_le hc
    · refine .inr ⟨hm, ?_, (significand_eq_iff he).mp hs⟩
      rw [← hpred, ← he]
      exact Nat.lt_log2_self
  · rintro (⟨hlow, hround⟩ | ⟨rfl, hhigh, hround⟩)
    · have hpos := Nat.two_pow_pos (p + 52)
      have hc : c ≠ 0 := by omega
      have hpow : 2 ^ (p + 52 + 1) = 2 ^ 53 * 2 ^ p := by rw [← Nat.pow_add, Nat.add_comm 53]
      have htop : (m + 1) * 2 ^ p ≤ 2 ^ 53 * 2 ^ p := Nat.mul_le_mul_right _ hm.2
      rw [Nat.succ_mul] at htop
      have hhigh := hround.high
      have he : c.log2 = p + 52 := (Nat.log2_eq_iff hc).mpr ⟨hlow, by omega⟩
      exact nearest_one_eq hc he ((significand_eq_iff he).mpr hround) (by omega)
    · have hpos := Nat.two_pow_pos (p - 1)
      have hpow : 2 ^ (p - 1 + 52) = 2 ^ 52 * 2 ^ (p - 1) := by rw [← Nat.pow_add, Nat.add_comm 52]
      have hlow := hround.low
      have hc : c ≠ 0 := by omega
      have he : c.log2 = p - 1 + 52 := (Nat.log2_eq_iff hc).mpr ⟨by omega, by rwa [hpred]⟩
      have hword := nearest_one_eq hc he ((significand_eq_iff he).mpr hround) (by omega)
      rw [hword]
      omega

/-- The integers nearest to a large number are those in its interval. -/
theorem nearest_one_eq_iff_holds (hm : 2 ^ 52 ≤ m ∧ m < 2 ^ 53) (hp : 2 ≤ p ∧ p ≤ 971) :
    double.nearest c 1 = (p + 1074) * 2 ^ 52 + m ↔ (double.interval m p).Holds c := by
  rw [nearest_one_eq_iff_roundsTo hm ⟨by omega, hp.2⟩]
  by_cases htwo : m = 2 ^ 52
  · rw [htwo, holds_interval_two_pow hp.1]
    simp only [true_and]
  · rw [holds_interval_iff_roundsTo (by omega) hp.1]
    have hpos := Nat.two_pow_pos p
    have hpow : 2 ^ (p + 52) = 2 ^ 52 * 2 ^ p := by rw [← Nat.pow_add, Nat.add_comm 52]
    have hnext : (2 ^ 52 + 1) * 2 ^ p ≤ m * 2 ^ p := Nat.mul_le_mul_right _ (by omega)
    constructor
    · rintro (⟨-, hround⟩ | ⟨hm, -⟩)
      · exact hround
      · exact absurd hm htwo
    · intro hround
      have hlow := hround.low
      exact .inl ⟨by omega, hround⟩

end Layout

namespace Double

open Layout

variable {x : Double} {m p : Nat}

/-- A whole number becomes a double exactly if the interval of that double holds it. -/
theorem ofInt_eq_iff_holds (hx : x.datum = .finite false m p) (hp : 2 ≤ p) {c : Nat} :
    ofInt c = x ↔ (double.interval m p).Holds c := by
  obtain ⟨hword, hlow, hhigh, hmax⟩ :=
    (decode_eq_finite_iff x.bits.toNat_lt (Nat.zero_lt_of_lt hp)).mp hx
  rw [ofInt_eq_iff, hword, nearest_one_eq_iff_holds ⟨hlow, hhigh⟩ ⟨hp, hmax⟩]

/-- The whole number that is written for a floating-point number. It reads back, none that reads
back ends in more zeros, and of those that end in as many zeros it is the nearest, the larger one
of two. -/
structure WrittenAs (x : Double) (n : Nat) : Prop where
  reads : ofInt n = x
  zeros : ∀ c k : Nat, ofInt c = x → 10 ^ k ∣ c → 10 ^ k ∣ n
  nearest : ∃ m p : Nat, x.datum = .finite false m p ∧
    ∀ c : Nat, ofInt c = x → (∀ k, 10 ^ k ∣ n → 10 ^ k ∣ c) → Preferred (m * 2 ^ p) n c

/-- One whole number at most is written for a number. -/
theorem WrittenAs.unique {n k : Nat} (hn : x.WrittenAs n) (hk : x.WrittenAs k) : n = k := by
  obtain ⟨m, p, hdatum, hnearest⟩ := hn.nearest
  obtain ⟨m', p', hdatum', hnearest'⟩ := hk.nearest
  obtain ⟨-, rfl, hpower⟩ := Datum.finite.inj (hdatum.symm.trans hdatum')
  obtain rfl := Int.ofNat_inj.mp hpower
  exact (hnearest k hk.reads fun e => hk.zeros n e hn.reads).antisymm
    (hnearest' n hn.reads fun e => hn.zeros k e hk.reads)

/-- The point of the first grid that has one is the whole number that is written, if the power of
ten above the grids has no multiple in the interval: a number with more zeros stands on a coarser
grid, and those have no point. -/
theorem writtenAs_of_pointOn (hx : x.datum = .finite false m p) (hp : 2 ≤ p) {leading d q : Nat}
    (hpoint : (double.interval m p).pointOn q = some d)
    (hcoarse : ∀ r, q < r → r ≤ leading → ∀ n, ¬(double.interval m p).Holds (n * 10 ^ r))
    (hcarry : ∀ n, ¬(double.interval m p).Holds (n * 10 ^ (leading + 1))) :
    x.WrittenAs (d * 10 ^ q) := by
  have hiff {c : Nat} : ofInt c = x ↔ (double.interval m p).Holds c := ofInt_eq_iff_holds hx hp
  obtain ⟨-, hlow, -⟩ := (decode_eq_finite_iff x.bits.toNat_lt (Nat.zero_lt_of_lt hp)).mp hx
  obtain ⟨hholds, hpreferred⟩ := Interval.pointOn_eq_some (whole_interval (by omega) hp) hpoint
  refine ⟨hiff.mpr hholds, fun c r hc hr => ?_, m, p, hx, fun c hc hzeros => ?_⟩
  · rw [hiff] at hc
    refine (Nat.pow_dvd_pow 10 (Nat.le_of_not_lt fun hlt => ?_)).trans (Nat.dvd_mul_left _ _)
    obtain hle | hgt := Nat.lt_or_ge leading r
    · obtain ⟨n, rfl⟩ := exists_eq_mul_left_of_dvd ((Nat.pow_dvd_pow 10 hle).trans hr)
      exact hcarry n hc
    · obtain ⟨n, rfl⟩ := exists_eq_mul_left_of_dvd hr
      exact hcoarse r hlt hgt n hc
  · rw [hiff] at hc
    obtain ⟨n, rfl⟩ := exists_eq_mul_left_of_dvd (hzeros q (Nat.dvd_mul_left _ _))
    rw [← center_interval m hp]
    exact hpreferred n hc

/-- The text of a number whose search ends on a grid of whole numbers is that of the point. -/
theorem text_of_search (hx : x.datum = .finite false m p) (hm : m ≠ 0) {leading d q : Nat}
    (hleading : floorLog10 (m * 2 ^ p) 1 = leading)
    (hsearch : (double.interval m p).search leading 1 17 = ⟨d, q⟩) :
    x.text = toString (d * 10 ^ q) := by
  obtain ⟨a, e, hnormal, hvalue⟩ := Decimals.normalize_eq 20 d q
  have hscaled : scaled m 2 p = (m * 2 ^ p, 1) := by simp [scaled]
  have hshort : double.shortest m p = ⟨a, e⟩ := by
    rw [shortest, if_neg hm, hscaled]
    dsimp only
    rw [hleading, hsearch, hnormal]
  have ha : 0 < a := by
    have hne := shortest_digits_ne_zero double hm p
    rw [hshort] at hne
    exact Nat.pos_of_ne_zero hne
  rw [text, hx, Layout.text, hshort, Decimals.positional_natCast ha, hvalue]
  simp

/-- The text of a large number is the whole number that is written for it, if a grid that is not
too fine has a point in its interval and the power of ten above the number has none. -/
theorem exists_writtenAs (hx : x.datum = .finite false m p) (hp : 2 ≤ p) {leading k t : Nat}
    (hleading : floorLog10 (m * 2 ^ p) 1 = leading) (hk : k ≤ leading) (hfuel : leading < k + 17)
    (hpoint : (double.interval m p).Holds (t * 10 ^ k))
    (hcarry : ∀ n, ¬(double.interval m p).Holds (n * 10 ^ (leading + 1))) :
    ∃ n, x.WrittenAs n ∧ 10 ^ k ∣ n ∧ x.text = toString n := by
  obtain ⟨-, hlow, -⟩ := (decode_eq_finite_iff x.bits.toNat_lt (Nat.zero_lt_of_lt hp)).mp hx
  obtain ⟨d, q, hsearch, hd, hkq, hcoarse⟩ := Interval.search_eq (whole_interval (by omega) hp)
    hpoint 17 (show (leading : Int) + 1 - (1 : Nat) = leading by omega) hk hfuel
  exact ⟨d * 10 ^ q, writtenAs_of_pointOn hx hp hd hcoarse hcarry,
    (Nat.pow_dvd_pow 10 hkq).trans (Nat.dvd_mul_left _ _),
    text_of_search hx (by omega) hleading hsearch⟩

/-! ## The upper half of a word -/

/-- An integer in the upper half of a word is rounded to eleven bits less, or to the first integer
behind the words. -/
theorem datum_ofInt {c : Nat} (hlow : 2 ^ 63 ≤ c) (hhigh : c < 2 ^ 64) :
    ∃ m p : Nat, (ofInt c).datum = .finite false m p ∧ (2 ^ 52 ≤ m ∧ m < 2 ^ 53) ∧
      (p = 11 ∨ p = 12 ∧ m = 2 ^ 52) := by
  have hc : c ≠ 0 := by omega
  have hlog : c.log2 = 11 + 52 := (Nat.log2_eq_iff hc).mpr ⟨hlow, hhigh⟩
  obtain ⟨hslow, hshigh⟩ := significand_mem hc
  have hword := nearest_one_eq hc hlog rfl (by omega)
  rw [← toNat_bits_ofInt] at hword
  have hbits := (ofInt c).bits.toNat_lt
  obtain hlt | hge := Nat.lt_or_ge (significand c) (2 ^ 53)
  · exact ⟨significand c, 11, (decode_eq_finite_iff hbits (by omega)).mpr
      ⟨hword, hslow, hlt, by omega⟩, ⟨hslow, hlt⟩, .inl rfl⟩
  · exact ⟨2 ^ 52, 12, (decode_eq_finite_iff hbits (by omega)).mpr
      ⟨by omega, Nat.le_refl _, by omega, by omega⟩, ⟨Nat.le_refl _, by omega⟩, .inr ⟨rfl, rfl⟩⟩

/-- Such an integer has nineteen or twenty digits. -/
theorem floorLog10_eq {v : Nat} (hlow : 2 ^ 63 ≤ v) (hhigh : v ≤ 2 ^ 64) :
    ∃ leading : Nat, floorLog10 v 1 = leading ∧ (leading = 18 ∨ leading = 19) ∧
      v < 10 ^ (leading + 1) := by
  have hpos := digitCount_pos v
  have hlong : ¬digitCount v ≤ 18 := by
    rw [digitCount_le_iff (by omega)]
    omega
  have hshort : digitCount v ≤ 20 := by
    rw [digitCount_le_iff (by omega)]
    omega
  refine ⟨digitCount v - 1, ?_, by omega, ?_⟩
  · rw [floorLog10, if_pos (by omega), Nat.div_one]
    omega
  · rw [Nat.sub_add_cancel hpos]
    exact lt_pow_digitCount v

section Upper

variable (hm : 2 ^ 52 ≤ m ∧ m < 2 ^ 53) (hp : p = 11 ∨ p = 12 ∧ m = 2 ^ 52)

include hm hp

/-- The interval of such a number has a multiple of a thousand. -/
theorem holds_thousands :
    (double.interval m p).Holds ((m * 2 ^ p + 500) / 1000 * 10 ^ 3) := by
  rw [interval_natCast m (by omega)]
  unfold Interval.Holds
  dsimp only
  obtain rfl | ⟨rfl, rfl⟩ := hp
  · split <;> split <;> omega
  · split <;> split <;> omega

/-- The power of ten above such a number lies outside its interval. -/
theorem not_holds_above {leading : Nat} (hleading : leading = 18 ∨ leading = 19)
    (hv : m * 2 ^ p < 10 ^ (leading + 1)) (n : Nat) :
    ¬(double.interval m p).Holds (n * 10 ^ (leading + 1)) := by
  intro h
  obtain ⟨hlow, hhigh⟩ := h.mem
  rw [interval_natCast m (by omega)] at hlow hhigh
  dsimp only at hlow hhigh
  obtain rfl | ⟨rfl, rfl⟩ := hp
  · obtain rfl | rfl := hleading <;> split at hlow <;> omega
  · rw [if_pos rfl] at hlow
    obtain rfl | rfl := hleading <;> omega

end Upper

/-- The text of the number nearest to an integer in the upper half of a word is that of a whole
number, and ends in three zeros. -/
theorem exists_writtenAs_ofInt {c : Nat} (hlow : 2 ^ 63 ≤ c) (hhigh : c < 2 ^ 64) :
    ∃ n, (ofInt c).WrittenAs n ∧ 1000 ∣ n ∧ (ofInt c).text = toString n := by
  obtain ⟨m, p, hx, hm, hp⟩ := datum_ofInt hlow hhigh
  have hvalue : 2 ^ 63 ≤ m * 2 ^ p ∧ m * 2 ^ p ≤ 2 ^ 64 := by
    obtain rfl | ⟨rfl, rfl⟩ := hp <;> omega
  obtain ⟨leading, hfloor, hleading, hv⟩ := floorLog10_eq hvalue.1 hvalue.2
  exact exists_writtenAs hx (by omega) hfloor (by omega) (by omega) (holds_thousands hm hp)
    (not_holds_above hm hp hleading hv)

end Double

end SqlAccess.Number
