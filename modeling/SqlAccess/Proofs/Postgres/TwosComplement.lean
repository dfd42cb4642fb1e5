import Mathlib.Algebra.Order.Ring.Int
import SqlAccess.Postgres.Wire

/-!
# Integers on a PostgreSQL connection

The binary form of an integer is the bytes of its two's complement, the highest first. Read with a
sign, the bytes give back every integer of the half range around zero; read without one, they give
back every integer from zero on.
-/

namespace SqlAccess.Wire

/-- The bytes of a word, the highest first. -/
def wordBytes {width : Nat} (x : BitVec (8 * width)) : List UInt8 :=
  (List.range width).map fun i => ⟨x.extractLsb' (8 * (width - 1 - i)) 8⟩

/-- Eight bits make one digit to base 256. -/
private theorem two_pow_eight_mul (k : Nat) : 2 ^ (8 * k) = 256 ^ k := by
  rw [Nat.pow_mul]

/-- A number is written with as many bytes as asked for. -/
@[simp] theorem length_bigEndian (width n : Nat) : (bigEndian width n).length = width := by
  induction width generalizing n with
  | zero => rfl
  | succ width ih => rw [bigEndian, List.length_append, ih, List.length_singleton]

/-- An integer is written with as many bytes as asked for. -/
@[simp] theorem length_integer (width : Nat) (n : Int) : (integer width n).length = width :=
  length_bigEndian width _

/-- Each byte is one digit to base 256. -/
theorem bigEndian_eq_map (width n : Nat) :
    bigEndian width n =
      (List.range width).map fun i => .ofNat (n / 256 ^ (width - 1 - i) % 256) := by
  induction width generalizing n with
  | zero => rfl
  | succ width ih =>
    have hhigh : ∀ i ∈ List.range width,
        UInt8.ofNat (n / 256 / 256 ^ (width - 1 - i) % 256) =
          .ofNat (n / 256 ^ (width + 1 - 1 - i) % 256) := by
      intro i hi
      have hi : i < width := List.mem_range.mp hi
      have hpower : 256 * 256 ^ (width - 1 - i) = 256 ^ (width + 1 - 1 - i) := by
        rw [← Nat.pow_succ']
        congr 1
        omega
      rw [Nat.div_div_eq_div_mul, hpower]
    rw [bigEndian, ih, List.range_succ, List.map_append, List.map_congr_left hhigh]
    simp

/-- One byte of a word. -/
theorem ofNat_digit {width : Nat} (x : BitVec (8 * width)) (k : Nat) :
    UInt8.ofNat (x.toNat / 256 ^ k % 256) = ⟨x.extractLsb' (8 * k) 8⟩ := by
  have hbits : BitVec.ofNat 8 (x.toNat / 256 ^ k % 256) = x.extractLsb' (8 * k) 8 := by
    apply BitVec.eq_of_toNat_eq
    rw [BitVec.extractLsb'_toNat, Nat.shiftRight_eq_div_pow, two_pow_eight_mul, BitVec.toNat_ofNat]
    omega
  rw [← hbits]
  rfl

/-- The binary form of an integer is the bytes of its two's complement. -/
theorem integer_eq_wordBytes (width : Nat) (n : Int) :
    integer width n = wordBytes (BitVec.ofInt (8 * width) n) := by
  have hword : (n % (Nat.pow 256 width : Nat)).toNat = (BitVec.ofInt (8 * width) n).toNat := by
    rw [BitVec.toNat_ofInt, two_pow_eight_mul]
    rfl
  rw [integer, hword, bigEndian_eq_map]
  exact List.map_congr_left fun i _ => ofNat_digit _ _

/-! ## Reading back -/

/-- The last byte counts once, and those before it 256 times as much. -/
private theorem natural_append_singleton (bytes : List UInt8) (b : UInt8) :
    natural (bytes ++ [b]) = natural bytes * 256 + b.toNat := by
  simp [natural]

/-- The bytes of a number are read as its remainder. -/
theorem natural_bigEndian (width n : Nat) : natural (bigEndian width n) = n % 256 ^ width := by
  induction width generalizing n with
  | zero => simp [bigEndian, natural, Nat.mod_one]
  | succ width ih =>
    have hbyte : (UInt8.ofNat (n % 256)).toNat = n % 256 := by
      simp
    rw [bigEndian, natural_append_singleton, ih, hbyte, Nat.pow_succ', Nat.mod_mul]
    omega

/-- The bytes of an integer are read as its remainder. -/
theorem natural_integer (width : Nat) (n : Int) :
    (natural (integer width n) : Int) = n % (256 ^ width : Nat) := by
  have hpos : (0 : Int) < (256 ^ width : Nat) := Int.natCast_pos.mpr (Nat.pow_pos (by decide))
  have hrest : ((n % (256 ^ width : Nat)).toNat : Int) = n % (256 ^ width : Nat) :=
    Int.toNat_of_nonneg (Int.emod_nonneg n (Int.ne_of_gt hpos))
  have hfits : (n % (256 ^ width : Nat)).toNat < 256 ^ width := by
    have hlt := Int.emod_lt_of_pos n hpos
    omega
  calc (natural (integer width n) : Int)
      = ((n % (256 ^ width : Nat)).toNat % 256 ^ width : Nat) :=
        congrArg Nat.cast (natural_bigEndian width _)
    _ = n % (256 ^ width : Nat) := by rw [Nat.mod_eq_of_lt hfits, hrest]

/-- Without a sign, what is not negative reads back. -/
theorem natural_integer_of_nonneg {width : Nat} {n : Int} (hlow : 0 ≤ n)
    (hhigh : n < (256 ^ width : Nat)) : (natural (integer width n) : Int) = n := by
  rw [natural_integer, Int.emod_eq_of_lt hlow hhigh]

/-- With a sign, what lies in the half range around zero reads back. -/
theorem signed_integer {width : Nat} {n : Int} (hlow : -((256 ^ width : Nat) : Int) ≤ 2 * n)
    (hhigh : 2 * n < (256 ^ width : Nat)) : signed (integer width n) = n := by
  have hsigned : signed (integer width n) =
      if 2 * (n % (256 ^ width : Nat)) < (256 ^ width : Nat) then n % (256 ^ width : Nat)
      else n % (256 ^ width : Nat) - (256 ^ width : Nat) := by
    rw [← natural_integer]
    unfold signed
    rw [length_integer]
    rfl
  rw [hsigned]
  by_cases hn : 0 ≤ n
  · have hrest : n % (256 ^ width : Nat) = n := Int.emod_eq_of_lt hn (by omega)
    rw [hrest, if_pos hhigh]
  · have hrest : n % (256 ^ width : Nat) = n + (256 ^ width : Nat) := by
      rw [← Int.add_emod_right]
      exact Int.emod_eq_of_lt (by omega) (by omega)
    rw [hrest, if_neg (by omega)]
    omega

end SqlAccess.Wire
