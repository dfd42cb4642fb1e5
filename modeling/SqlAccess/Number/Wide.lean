import SqlAccess.Number.Reading

/-!
# Integers of 128 bits

The widest integers a value can hold, and the bounded readings of an integer in the narrower words.
-/

namespace SqlAccess.Number

/-- A signed integer of 128 bits. -/
structure Int128 where
  toInt : Int
  le_toInt : -170141183460469231731687303715884105728 ≤ toInt
  toInt_lt : toInt < 170141183460469231731687303715884105728
  deriving DecidableEq

namespace Int128

instance : Inhabited Int128 := ⟨⟨0, by decide, by decide⟩⟩

/-- An integer as a 128-bit one, when it fits. -/
def ofInt? (n : Int) : Option Int128 :=
  if h : -170141183460469231731687303715884105728 ≤ n ∧
      n < 170141183460469231731687303715884105728 then some ⟨n, h.1, h.2⟩ else none

/-- Every unsigned word is a 128-bit integer. -/
def ofUInt64 (n : UInt64) : Int128 :=
  have h := n.toNat_lt
  ⟨n.toNat, by omega, by omega⟩

/-- Every signed word is a 128-bit integer. -/
def ofInt64 (n : Int64) : Int128 :=
  have lo := n.le_toInt
  have hi := n.toInt_lt
  ⟨n.toInt, by omega, by omega⟩

/-- Reads a 128-bit integer. -/
def read (cs : List Char) : Except IntegerError Int128 :=
  match readInt (-170141183460469231731687303715884105728)
      170141183460469231731687303715884105727 cs with
  | .error e => .error e
  | .ok n =>
    match ofInt? n with
    | some m => .ok m
    | none => .error .tooLarge

end Int128

/-- An integer as a 64-bit one, when it fits. -/
def int64? (n : Int) : Option Int64 :=
  if -9223372036854775808 ≤ n ∧ n < 9223372036854775808 then some (Int64.ofInt n) else none

/-- An integer as a 32-bit one, when it fits. -/
def int32? (n : Int) : Option Int32 :=
  if -2147483648 ≤ n ∧ n < 2147483648 then some (Int32.ofInt n) else none

/-- An integer fits 64 bits as the word that stands for it. -/
theorem int64?_eq_some_iff {n : Int} {m : Int64} : int64? n = some m ↔ m.toInt = n := by
  have hlow := m.le_toInt
  have hhigh := m.toInt_lt
  rw [int64?, Option.ite_none_right_eq_some]
  constructor
  · rintro ⟨hrange, hm⟩
    rw [← Option.some.inj hm, Int64.toInt_ofInt_of_le (by omega) (by omega)]
  · rintro rfl
    exact ⟨by omega, congrArg some (Int64.ofInt_toInt m)⟩

/-- Only an integer beyond 64 bits does not fit them. -/
theorem int64?_eq_none_iff {n : Int} :
    int64? n = none ↔ ¬(-9223372036854775808 ≤ n ∧ n < 9223372036854775808) := by
  simp only [int64?, ite_eq_right_iff, reduceCtorEq, imp_false]

/-- An integer fits 32 bits as the word that stands for it. -/
theorem int32?_eq_some_iff {n : Int} {m : Int32} : int32? n = some m ↔ m.toInt = n := by
  have hlow := m.le_toInt
  have hhigh := m.toInt_lt
  rw [int32?, Option.ite_none_right_eq_some]
  constructor
  · rintro ⟨hrange, hm⟩
    rw [← Option.some.inj hm, Int32.toInt_ofInt_of_le (by omega) (by omega)]
  · rintro rfl
    exact ⟨by omega, congrArg some (Int32.ofInt_toInt m)⟩

/-- Only an integer beyond 32 bits does not fit them. -/
theorem int32?_eq_none_iff {n : Int} :
    int32? n = none ↔ ¬(-2147483648 ≤ n ∧ n < 2147483648) := by
  simp only [int32?, ite_eq_right_iff, reduceCtorEq, imp_false]

/-- A count in a signed word, at most the largest one. -/
def clampToInt64 (n : UInt64) : Int64 := (int64? n.toNat).getD Int64.maxValue

end SqlAccess.Number
