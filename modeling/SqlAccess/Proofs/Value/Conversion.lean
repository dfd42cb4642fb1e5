import SqlAccess.Proofs.Number.Whole
import SqlAccess.Proofs.Value.Integral

/-!
# Integers as values

Ten types of integers become values, and each keeps its integers: the value holds the integer it was
made from. Integers of JSON are kept as long as they fit 64 signed bits. Those beyond become the
floating-point numbers nearest to them, and what is written is the whole number of its text, which
ends in zeros.
-/

namespace SqlAccess

open Number

/-- The types of integers that become values. -/
inductive IntegerKind
  | int8
  | int16
  | int32
  | int64
  | int128
  | uint8
  | uint16
  | uint32
  | uint64
  | usize

namespace IntegerKind

/-- The type of a kind. -/
def Carrier : IntegerKind → Type
  | int8 => Int8
  | int16 => Int16
  | int32 => Int32
  | int64 => Int64
  | int128 => Int128
  | uint8 => UInt8
  | uint16 => UInt16
  | uint32 => UInt32
  | uint64 => UInt64
  | usize => USize

/-- The integer that a word stands for. -/
def toInt : (k : IntegerKind) → k.Carrier → Int
  | int8, n => Int8.toInt n
  | int16, n => Int16.toInt n
  | int32, n => Int32.toInt n
  | int64, n => Int64.toInt n
  | int128, n => Int128.toInt n
  | uint8, n => UInt8.toNat n
  | uint16, n => UInt16.toNat n
  | uint32, n => UInt32.toNat n
  | uint64, n => UInt64.toNat n
  | usize, n => USize.toNat n

/-- Words become values by the conversion of their own type. -/
instance : (k : IntegerKind) → ToValue k.Carrier
  | int8 => inferInstanceAs (ToValue Int8)
  | int16 => inferInstanceAs (ToValue Int16)
  | int32 => inferInstanceAs (ToValue Int32)
  | int64 => inferInstanceAs (ToValue Int64)
  | int128 => inferInstanceAs (ToValue Int128)
  | uint8 => inferInstanceAs (ToValue UInt8)
  | uint16 => inferInstanceAs (ToValue UInt16)
  | uint32 => inferInstanceAs (ToValue UInt32)
  | uint64 => inferInstanceAs (ToValue UInt64)
  | usize => inferInstanceAs (ToValue USize)

end IntegerKind

namespace Value

/-- An unsigned word is held as it is, in the wider word if the narrower one is too small. -/
theorem holdsInteger_ofUInt64 (n : UInt64) : (ofUInt64 n).HoldsInteger n.toNat := by
  unfold ofUInt64
  cases h : int64? n.toNat with
  | some m =>
    rw [← int64?_eq_some_iff.mp h, Option.map_some, Option.getD_some]
    exact .long m
  | none =>
    rw [Option.map_none, Option.getD_none]
    exact .bigint (.ofUInt64 n)

/-- A word without a sign becomes a value that holds its integer. -/
theorem holdsInteger_uint64 (n : UInt64) : (toValue n).HoldsInteger n.toNat := by
  have hvalue : toValue n = ofUInt64 n := rfl
  rw [hvalue]
  exact holdsInteger_ofUInt64 n

/-- A word of 32 bits holds the integers that fit it. -/
theorem holdsInteger_int {n : Int} (hlow : -2147483648 ≤ n) (hhigh : n < 2147483648) :
    (int (.ofInt n)).HoldsInteger n := by
  have h := HoldsInteger.int (.ofInt n)
  rwa [Int32.toInt_ofInt_of_le hlow hhigh] at h

/-- A word of 64 bits holds the integers that fit it. -/
theorem holdsInteger_long {n : Int} (hlow : -9223372036854775808 ≤ n)
    (hhigh : n < 9223372036854775808) : (long (.ofInt n)).HoldsInteger n := by
  have h := HoldsInteger.long (.ofInt n)
  rwa [Int64.toInt_ofInt_of_le hlow hhigh] at h

/-- The value of an integer holds it, whatever the type of the integer. -/
theorem holdsInteger_toValue (k : IntegerKind) (n : k.Carrier) :
    (toValue n).HoldsInteger (k.toInt n) := by
  cases k with
  | int8 => exact .byte n
  | int16 =>
    have h := HoldsInteger.int (Int16.toInt32 n)
    rwa [show (Int16.toInt32 n).toInt = _ from Int16.toInt_toInt32 n] at h
  | int32 => exact .int n
  | int64 => exact .long n
  | int128 => exact .bigint n
  | uint8 =>
    have hn := UInt8.toNat_lt n
    exact holdsInteger_int (by omega) (by omega)
  | uint16 =>
    have hn := UInt16.toNat_lt n
    exact holdsInteger_int (by omega) (by omega)
  | uint32 =>
    have hn := UInt32.toNat_lt n
    exact holdsInteger_long (by omega) (by omega)
  | uint64 => exact holdsInteger_uint64 n
  | usize => exact holdsInteger_uint64 (USize.toUInt64 n)

private theorem toValue_json (v : Json) : toValue v = ofJson v := rfl

/-- An integer of JSON that fits 64 signed bits is held as it is. -/
theorem holdsInteger_json {j : Int} (hlow : -9223372036854775808 ≤ j)
    (hhigh : j < 9223372036854775808) : (toValue (Json.int j)).HoldsInteger j := by
  rw [toValue_json, ofJson, int64?, if_pos ⟨hlow, hhigh⟩]
  exact holdsInteger_long hlow hhigh

/-- A finite floating-point number is written with its text. -/
private theorem literal_double {x : Double} {negative : Bool} {mantissa : Nat} {power : Int}
    (hx : x.datum = .finite negative mantissa power) (d : Dialect) :
    d.literal (.double x) = x.text := by
  have hfinite : x.isFinite = true := by rw [Double.isFinite, hx]
  rw [Dialect.literal, if_pos hfinite]

/-- An integer of JSON beyond 64 signed bits becomes the floating-point number nearest to it, and is
written as the whole number of that one. -/
theorem literal_json_beyond {c : Nat} (hlow : 9223372036854775808 ≤ c)
    (hhigh : c < 18446744073709551616) :
    ∃ w : Nat, (Double.ofInt c).WrittenAs w ∧ 1000 ∣ w ∧
      ∀ d : Dialect, d.literal (toValue (Json.int c)) = toString w := by
  have hnone : int64? c = none := int64?_eq_none_iff.mpr (by omega)
  obtain ⟨m, p, hx, -, -⟩ := Double.datum_ofInt hlow hhigh
  obtain ⟨w, hw, hzeros, htext⟩ := Double.exists_writtenAs_ofInt hlow hhigh
  refine ⟨w, hw, hzeros, fun d => ?_⟩
  rw [toValue_json, ofJson, hnone, ← htext]
  exact literal_double hx d

/-- An integer of any of the types becomes a number that is written with its digits and is seen in
64 bits exactly if it fits them. An integer of JSON is written with its digits if it fits 64 signed
bits. One beyond them is written as the whole number of the floating-point number nearest to it, so
its own digits are kept only where it is that whole number, and never unless it ends in three
zeros. -/
theorem conversions_keep_integers (k : IntegerKind) (n : k.Carrier) (j : Int)
    (hj : -9223372036854775808 ≤ j ∧ j < 18446744073709551616) :
    ((toValue n).isNumeric = true ∧
      (∀ d : Dialect, d.literal (toValue n) = toString (k.toInt n)) ∧
      ∀ m : Int64, (toValue n).asInt64 = some m ↔ m.toInt = k.toInt n) ∧
    (j < 9223372036854775808 → ∀ d : Dialect, d.literal (toValue (Json.int j)) = toString j) ∧
    (9223372036854775808 ≤ j →
      (∃ w : Nat, (Double.ofInt j).WrittenAs w ∧ 1000 ∣ w ∧
        ∀ d : Dialect, d.literal (toValue (Json.int j)) = toString w) ∧
      ∀ d : Dialect, d.literal (toValue (Json.int j)) = toString j ↔
        (Double.ofInt j).WrittenAs j.toNat) := by
  have hn := holdsInteger_toValue k n
  refine ⟨⟨hn.isNumeric, hn.literal, fun m => hn.asInt64_eq_some_iff⟩, fun hhigh => ?_,
    fun hlow => ?_⟩
  · exact (holdsInteger_json hj.1 hhigh).literal
  · obtain ⟨c, rfl⟩ := Int.eq_ofNat_of_zero_le (show 0 ≤ j by omega)
    obtain ⟨w, hw, hzeros, hliteral⟩ := literal_json_beyond (show 9223372036854775808 ≤ c by omega)
      (by omega)
    refine ⟨⟨w, hw, hzeros, hliteral⟩, fun d => ?_⟩
    have hdigits : toString (c : Int) = toString c := rfl
    rw [hliteral, hdigits, Int.toNat_natCast, toString_nat_inj]
    constructor
    · rintro rfl
      exact hw
    · exact hw.unique

/-- The first integer that only the widest words hold is kept by the conversion of its type, and the
largest one of JSON is written with zeros. -/
theorem pastInt64_is_kept :
    let n : IntegerKind.uint64.Carrier := (9223372036854775808 : UInt64)
    ((toValue n).isNumeric = true ∧ Dialect.mysql.literal (toValue n) = "9223372036854775808") ∧
      ∃ w : Nat, (Double.ofInt 18446744073709551615).WrittenAs w ∧ 1000 ∣ w ∧
        Dialect.mysql.literal (toValue (Json.int 18446744073709551615)) = toString w := by
  intro n
  have hint : IntegerKind.uint64.toInt n = 9223372036854775808 := rfl
  have h := conversions_keep_integers .uint64 n 18446744073709551615 ⟨by omega, by omega⟩
  rw [hint] at h
  obtain ⟨w, hw, hzeros, hliteral⟩ := (h.2.2 (by omega)).1
  exact ⟨⟨h.1.1, h.1.2.1 .mysql⟩, w, hw, hzeros, hliteral .mysql⟩

/-- The largest unsigned integer is not written with its digits if it comes from JSON, and it is if
it comes as a word. -/
theorem largest_json_integer_is_rounded :
    Dialect.mysql.literal (toValue (Json.int 18446744073709551615)) = "18446744073709552000" ∧
      toString (18446744073709551615 : Int) ≠ "18446744073709552000" ∧
      Dialect.mysql.literal (toValue (18446744073709551615 : UInt64)) =
        toString (18446744073709551615 : Int) := by
  have hnone : int64? 18446744073709551615 = none := int64?_eq_none_iff.mpr (by omega)
  have hfinite : (Double.ofInt 18446744073709551615).isFinite = true := by decide
  have htext : (Double.ofInt 18446744073709551615).text = "18446744073709552000" := by decide
  refine ⟨?_, by decide, (holdsInteger_uint64 18446744073709551615).literal .mysql⟩
  rw [toValue_json, ofJson, hnone, Dialect.literal, if_pos hfinite, htext]

end Value

end SqlAccess
