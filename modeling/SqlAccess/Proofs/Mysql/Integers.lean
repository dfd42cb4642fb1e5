import Mathlib.Algebra.Order.Ring.Int
import SqlAccess.Mysql.Codec
import SqlAccess.Proofs.Calendar.ReadBack
import SqlAccess.Proofs.Number.Numeral
import SqlAccess.Proofs.Text.Utf8

/-!
# Integers as MySQL parameters and cells

An integer arrives as a signed word, as an unsigned one, or as its decimal notation. A column of
integers looks at the integer alone and makes of it the narrowest value that holds it, so the form
it came in does not show. Parameters choose one of the three forms, and every integer of 128 bits is
read back from the one chosen.
-/

namespace SqlAccess

open Number

namespace Mysql

/-- A wire form that holds an integer: a word of either sign, or decimal notation with blanks
around it. -/
inductive HoldsInteger : MysqlValue → Int → Prop
  | int (m : Int64) : HoldsInteger (.int m) m.toInt
  | uint (m : UInt64) : HoldsInteger (.uint m) m.toNat
  | text {before cs after : List Char} {m : Int128}
      (hbefore : ∀ c ∈ before, Text.isBlank c = true) (hcs : IsInteger cs m.toInt)
      (hafter : ∀ c ∈ after, Text.isBlank c = true) :
      HoldsInteger (.bytes (Text.utf8 (String.ofList (before ++ cs ++ after)))) m.toInt

/-- The value that a column of integers makes of an integer: the narrowest that holds it, where
columns of 64 bits have no value of 32. -/
inductive IntegerCell : ColumnKind → Int → Value → Prop
  | int (m : Int32) : IntegerCell .smallInt m.toInt (.int m)
  | long {kind : ColumnKind} (m : Int64)
      (hwide : kind = .smallInt → m.toInt < -2 ^ 31 ∨ 2 ^ 31 ≤ m.toInt) :
      IntegerCell kind m.toInt (.long m)
  | bigint {kind : ColumnKind} (m : Int128) (hwide : m.toInt < -2 ^ 63 ∨ 2 ^ 63 ≤ m.toInt) :
      IntegerCell kind m.toInt (.bigint m)

/-- The value holds the integer. -/
theorem IntegerCell.integer? {kind : ColumnKind} {n : Int} {v : Value} (h : IntegerCell kind n v) :
    v.integer? = some n := by
  cases h <;> rfl

/-! ## Cells -/

/-- Beyond 32 bits, and in columns of 64, an integer is a long one as long as it fits. -/
theorem integerCell_wideInteger {kind : ColumnKind} {n : Int128}
    (hwide : kind = .smallInt → n.toInt < -2 ^ 31 ∨ 2 ^ 31 ≤ n.toInt) :
    IntegerCell kind n.toInt (wideInteger n) := by
  unfold wideInteger
  split
  · rename_i m hm
    rw [← int64?_eq_some_iff.mp hm] at hwide ⊢
    exact .long m hwide
  · rename_i hm
    exact .bigint n (by
      have hfits := int64?_eq_none_iff.mp hm
      omega)

/-- In columns of 32 bits an integer is a small one as long as it fits. -/
theorem integerCell_narrowInteger (n : Int128) :
    IntegerCell .smallInt n.toInt (narrowInteger n) := by
  unfold narrowInteger
  split
  · rename_i m hm
    rw [← int32?_eq_some_iff.mp hm]
    exact .int m
  · rename_i hm
    exact integerCell_wideInteger fun _ => by
      have hfits := int32?_eq_none_iff.mp hm
      omega

/-- Decimal notation has no blanks. -/
theorem isBlank_of_isInteger {cs : List Char} {n : Int} (h : IsInteger cs n) :
    ∀ c ∈ cs, Text.isBlank c = false := by
  have hdigits {ds : List Char} {m : Nat} (h : IsNumeral ds m) :
      ∀ c ∈ ds, Text.isBlank c = false :=
    fun c hc => Calendar.isBlank_of_isDigit (h.digits c hc)
  cases h with
  | bare h => exact hdigits h
  | plus h => exact List.forall_mem_cons.mpr ⟨rfl, hdigits h⟩
  | minus h => exact List.forall_mem_cons.mpr ⟨rfl, hdigits h⟩

/-- Decimal notation is read whatever blanks stand around it. -/
private theorem parseInteger_text {before cs after : List Char} {m : Int128}
    (hbefore : ∀ c ∈ before, Text.isBlank c = true) (hcs : IsInteger cs m.toInt)
    (hafter : ∀ c ∈ after, Text.isBlank c = true) :
    parseInteger (Text.utf8 (String.ofList (before ++ cs ++ after))) = .ok m := by
  have htrim := Text.trimChars_append hcs.ne_nil hbefore (isBlank_of_isInteger hcs) hafter
  simp only [parseInteger, parseCell, cellText, Text.ofUtf8_utf8, Except.mapError, Text.trim,
    String.toList_ofList, htrim, Int128.read_eq_ok_iff.mpr hcs]

/-- A column of integers sees the integer that a wire form holds, and nothing else of it. -/
theorem readCell_of_holdsInteger {w : MysqlValue} {n : Int} (h : HoldsInteger w n) :
    ∃ m : Int128, m.toInt = n ∧
      readCell .smallInt w = .ok (some (narrowInteger m)) ∧
      readCell .bigInt w = .ok (some (wideInteger m)) := by
  cases h with
  | int m => exact ⟨.ofInt64 m, rfl, rfl, rfl⟩
  | uint m => exact ⟨.ofUInt64 m, rfl, rfl, rfl⟩
  | @text before cs after m hbefore hcs hafter =>
    refine ⟨m, rfl, ?_, ?_⟩ <;>
      rw [readCell, parseInteger_text hbefore hcs hafter, Except.map]

/-- A cell of any of the forms becomes the narrowest value of its column. -/
theorem decode_of_holdsInteger {kind : ColumnKind} (hkind : kind = .smallInt ∨ kind = .bigInt)
    {w : MysqlValue} {n : Int} (h : HoldsInteger w n) (column : String) (maxBlob : Nat) :
    ∃ v, IntegerCell kind n v ∧ decode column kind maxBlob w = .ok (some v, []) := by
  have hcell : w ≠ .null := by
    rintro rfl
    cases h
  obtain ⟨m, rfl, hsmall, hbig⟩ := readCell_of_holdsInteger h
  have hread : ∃ v, IntegerCell kind m.toInt v ∧ readCell kind w = .ok (some v) := by
    obtain rfl | rfl := hkind
    · exact ⟨_, integerCell_narrowInteger m, hsmall⟩
    · exact ⟨_, integerCell_wideInteger nofun, hbig⟩
  obtain ⟨v, hv, hread⟩ := hread
  refine ⟨v, hv, decode_of_readCell hcell ?_ hread⟩
  rintro bs rfl
  cases hv.integer?

/-! ## Parameters -/

/-- Every integer of 128 bits has a wire form that holds it. -/
theorem holdsInteger_ofInteger (m : Int128) : HoldsInteger (ofInteger m.toInt) m.toInt := by
  unfold ofInteger
  split
  · rename_i k hk
    rw [← int64?_eq_some_iff.mp hk]
    exact .int k
  · split
    · rename_i hword
      have hnat : (UInt64.ofNat m.toInt.toNat).toNat = m.toInt.toNat :=
        UInt64.toNat_ofNat_of_lt' (by omega)
      have huint := HoldsInteger.uint (UInt64.ofNat m.toInt.toNat)
      rwa [hnat, Int.toNat_of_nonneg hword.1] at huint
    · have htext := @HoldsInteger.text [] _ [] m nofun (isInteger_toString m.toInt) nofun
      rwa [List.nil_append, List.append_nil, String.ofList_toList] at htext

/-- Every value that holds an integer goes out as a wire form that holds it. -/
private theorem holdsInteger_encode {x : Value} {n : Int} (h : x.integer? = some n) :
    HoldsInteger (encode x) n := by
  cases x <;> cases h
  case int m => exact m.toInt_toInt64 ▸ .int m.toInt64
  case long m => exact .int m
  case bigint m => exact holdsInteger_ofInteger m
  case byte m => exact m.toInt_toInt64 ▸ .int m.toInt64

/-- Columns of integers give the integer back, in the narrowest value of the column that holds it,
from every wire form that holds it and so from every parameter that does. -/
theorem integers_are_read_back {kind : ColumnKind} (hkind : kind = .smallInt ∨ kind = .bigInt)
    (column : String) (maxBlob : Nat) (n : Int) :
    (∀ w, HoldsInteger w n →
      ∃ v, IntegerCell kind n v ∧ decode column kind maxBlob w = .ok (some v, [])) ∧
    ∀ x : Value, x.integer? = some n →
      ∃ v, IntegerCell kind n v ∧ decode column kind maxBlob (encode x) = .ok (some v, []) :=
  ⟨fun _ h => decode_of_holdsInteger hkind h column maxBlob,
    fun _ h => decode_of_holdsInteger hkind (holdsInteger_encode h) column maxBlob⟩

/-- The largest integer of 32 bits, as an unsigned word, the next one as text, and the first integer
that no word holds, as a parameter. -/
theorem largestInt32_is_read_back :
    (∃ v, IntegerCell .smallInt 2147483647 v ∧
      decode "n" .smallInt 0 (.uint 2147483647) = .ok (some v, [])) ∧
    (∃ v, IntegerCell .smallInt 2147483648 v ∧
      decode "n" .smallInt 0 (.bytes (Text.utf8 " +02147483648\n")) = .ok (some v, [])) ∧
    ∃ v, IntegerCell .bigInt 18446744073709551616 v ∧
      decode "n" .bigInt 0 (encode (.bigint ⟨18446744073709551616, by decide, by decide⟩)) =
        .ok (some v, []) := by
  have htext : HoldsInteger (.bytes (Text.utf8 " +02147483648\n")) 2147483648 :=
    @HoldsInteger.text [' '] "+02147483648".toList ['\n'] ⟨2147483648, by decide, by decide⟩
      (List.forall_mem_singleton.mpr rfl) (Int128.read_eq_ok_iff.mp rfl)
      (List.forall_mem_singleton.mpr rfl)
  exact ⟨(integers_are_read_back (.inl rfl) "n" 0 2147483647).1 _ (.uint 2147483647),
    (integers_are_read_back (.inl rfl) "n" 0 2147483648).1 _ htext,
    (integers_are_read_back (.inr rfl) "n" 0 18446744073709551616).2 _ rfl⟩

end Mysql

end SqlAccess
