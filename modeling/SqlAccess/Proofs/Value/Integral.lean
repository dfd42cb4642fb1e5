import SqlAccess.Dialect

/-!
# Integral values

Four constructors hold integers, of 8, 32, 64 and 128 bits. Only the integer shows: whatever the
constructor, the value is a number, its literal is the decimal notation of the integer in either
dialect, and its view of 64 bits is the integer where it fits.
-/

namespace SqlAccess.Value

open Number

/-- The integer that a value holds, in a word of any width. -/
inductive HoldsInteger : Value → Int → Prop
  | int (m : Int32) : HoldsInteger (.int m) m.toInt
  | long (m : Int64) : HoldsInteger (.long m) m.toInt
  | bigint (m : Int128) : HoldsInteger (.bigint m) m.toInt
  | byte (m : Int8) : HoldsInteger (.byte m) m.toInt

variable {v : Value} {n : Int}

/-- A value holds an integer exactly if it is read as that integer. -/
theorem holdsInteger_iff : v.HoldsInteger n ↔ v.integer? = some n := by
  constructor
  · intro h
    cases h <;> rfl
  · intro h
    cases v <;> cases h <;> constructor

/-- A value holds one integer at most. -/
theorem HoldsInteger.unique {k : Int} (hn : v.HoldsInteger n) (hk : v.HoldsInteger k) : n = k := by
  rw [holdsInteger_iff] at hn hk
  exact Option.some.inj (hn.symm.trans hk)

/-- Integral values are numbers. -/
theorem HoldsInteger.isNumeric (h : v.HoldsInteger n) : v.isNumeric = true := by
  cases h <;> rfl

/-- The literal of an integral value is the decimal notation of its integer. -/
theorem HoldsInteger.literal (h : v.HoldsInteger n) (d : Dialect) : d.literal v = toString n := by
  cases h <;> simp only [Dialect.literal, raw]

/-- The view of 64 bits is the integer that the value holds. -/
theorem asInt64_eq_some_iff_holdsInteger {m : Int64} :
    v.asInt64 = some m ↔ v.HoldsInteger m.toInt := by
  rw [asInt64_eq_some_iff, holdsInteger_iff]

/-- A value without such a view holds no integer of 64 bits. -/
theorem asInt64_eq_none_iff : v.asInt64 = none ↔ ∀ m : Int64, ¬v.HoldsInteger m.toInt := by
  simp only [Option.eq_none_iff_forall_ne_some, ne_eq, asInt64_eq_some_iff_holdsInteger]

/-- The view of 64 bits is there exactly for the integers that fit it. -/
theorem HoldsInteger.asInt64_eq_some_iff (h : v.HoldsInteger n) {m : Int64} :
    v.asInt64 = some m ↔ m.toInt = n := by
  rw [asInt64_eq_some_iff_holdsInteger]
  constructor
  · intro hm
    exact hm.unique h
  · rintro rfl
    exact h

end SqlAccess.Value
