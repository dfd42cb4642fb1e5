import SqlAccess.Proofs.Value.Integral
import SqlAccess.Record

/-!
# Typed readers of a row

Every reader looks at one cell, that of the first column with its name. A column that is missing is
refused by all of them and NULL is no value for any. The readers of integers give the integer that
the cell holds where it fits their word, and refuse the cell otherwise; those of decimal numbers and
of truth values agree with the reader of 64 bits wherever that one gives an integer.
-/

namespace SqlAccess

open Number

/-- An integer of 64 bits is the integer part of its decimal number. -/
theorem Number.Decimal.toInt_ofInt64 (n : Int64) : (Decimal.ofInt64 n).toInt = n.toInt := by
  have hunit : Nat.pow 10 0 = 1 := rfl
  simp only [Decimal.toInt, Decimal.ofInt64, hunit, Nat.div_one, decide_eq_true_eq]
  split <;> omega

namespace Row

/-! ## Readers and their cell -/

/-- The readers of a cell that may be NULL. -/
inductive Reader
  | value
  | text
  | int32
  | int64
  | double
  | decimal
  | bool
  | timestamp
  | bytes

/-- What a reader makes of a cell. -/
def Reader.Result : Reader → Type
  | .value => Value
  | .text => String
  | .int32 => Int32
  | .int64 => Int64
  | .double => Double
  | .decimal => Decimal
  | .bool => Bool
  | .timestamp => Calendar.Timestamp
  | .bytes => List UInt8

/-- The cell of a column, as a reader reads it. -/
def readBy (r : Row) (column : String) : (k : Reader) → Except DbError (Option k.Result)
  | .value => r.get column
  | .text => r.getText column
  | .int32 => r.getInt32 column
  | .int64 => r.getInt64 column
  | .double => r.getDouble column
  | .decimal => r.getDecimal column
  | .bool => r.getBool column
  | .timestamp => r.getTimestamp column
  | .bytes => r.getBytes column

/-- The cell under the first column with a name. A place beyond the cells is NULL. -/
def FirstCell (r : Row) (column : String) (cell : Option Value) : Prop :=
  ∃ before after, r.columns = before ++ column :: after ∧ column ∉ before ∧
    cell = r.cellAt before.length

variable {r : Row} {column : String} {cell : Option Value} {v : Value}

/-- Every column of a row has a first cell. -/
theorem exists_firstCell (h : column ∈ r.columns) : ∃ cell, r.FirstCell column cell := by
  obtain ⟨before, after, hsplit, hbefore⟩ := List.eq_append_cons_of_mem h
  exact ⟨_, before, after, hsplit, hbefore, rfl⟩

/-- No place has a name that is not there. -/
private theorem get_of_notMem (h : column ∉ r.columns) :
    r.get column = .error (.decode column "no such column") := by
  have hnone : r.columns.findIdx? (· = column) = none :=
    List.findIdx?_eq_none_iff.mpr fun other hother =>
      decide_eq_false (ne_of_mem_of_not_mem hother h)
  rw [get, hnone]

/-- The accessor gives the cell under the first column with the name. -/
theorem FirstCell.get (h : r.FirstCell column cell) : r.get column = .ok cell := by
  obtain ⟨before, after, hsplit, hbefore, rfl⟩ := h
  have hnone : before.findIdx? (· = column) = none :=
    List.findIdx?_eq_none_iff.mpr fun other hother =>
      decide_eq_false (ne_of_mem_of_not_mem hother hbefore)
  have hplace : r.columns.findIdx? (· = column) = some before.length := by
    rw [hsplit, List.findIdx?_append, hnone, List.findIdx?_cons]
    simp
  rw [Row.get, hplace]

/-- Only one cell is under the first column with a name. -/
theorem FirstCell.unique {other : Option Value} (h : r.FirstCell column cell)
    (hother : r.FirstCell column other) : cell = other :=
  Except.ok.inj (h.get.symm.trans hother.get)

/-! ## Reading a cell -/

section Read

variable {α : Type} {expected : String} {reader : Value → Option α}

/-- A cell that cannot be got cannot be read, and the error is the same. -/
private theorem read_of_get_error {e : DbError} (h : r.get column = .error e) :
    r.read column expected reader = .error e := by
  rw [read, h]

/-- An absent value reads as absent, whatever is asked for. -/
private theorem read_of_get_null (h : r.get column = .ok none) :
    r.read column expected reader = .ok none := by
  rw [read, h]

/-- A reader gives what it makes of the cell. -/
theorem read_eq_ok_some_iff (h : r.get column = .ok (some v)) {a : α} :
    r.read column expected reader = .ok (some a) ↔ reader v = some a := by
  simp only [read, h]
  cases reader v <;> simp

/-- A cell that a reader makes nothing of is refused, with the name of its kind. -/
private theorem read_of_refused (h : r.get column = .ok (some v)) (hv : reader v = none) :
    r.read column expected reader =
      .error (.decode column ("expected " ++ expected ++ ", got " ++ v.typeName)) := by
  simp only [read, h, hv]

end Read

/-- Every reader refuses a column that is missing. -/
private theorem readBy_of_notMem (h : column ∉ r.columns) (k : Reader) :
    r.readBy column k = .error (.decode column "no such column") := by
  have hget := get_of_notMem h
  cases k with
  | value => exact hget
  | _ => exact read_of_get_error hget

/-- NULL is no value for any reader. -/
private theorem readBy_of_null (h : r.FirstCell column none) (k : Reader) :
    r.readBy column k = .ok none := by
  have hget := h.get
  cases k with
  | value => exact hget
  | _ => exact read_of_get_null hget

/-! ## Readers of integers -/

/-- The reader of 64 bits gives the integer of the cell. -/
theorem getInt64_eq_iff (h : r.FirstCell column (some v)) {n : Int64} :
    r.getInt64 column = .ok (some n) ↔ v.HoldsInteger n.toInt := by
  rw [getInt64, read_eq_ok_some_iff h.get, Value.asInt64_eq_some_iff_holdsInteger]

/-- So does the reader of 32 bits. -/
theorem getInt32_eq_iff (h : r.FirstCell column (some v)) {m : Int32} :
    r.getInt32 column = .ok (some m) ↔ v.HoldsInteger m.toInt := by
  rw [getInt32, read_eq_ok_some_iff h.get]
  simp only [Option.bind_eq_some_iff, Value.asInt64_eq_some_iff_holdsInteger,
    int32?_eq_some_iff]
  constructor
  · rintro ⟨n, hn, hm⟩
    rwa [hm]
  · intro hm
    exact ⟨m.toInt64, by rwa [Int32.toInt_toInt64], (Int32.toInt_toInt64 m).symm⟩

/-- The readers of integers and those that read integers too, on one cell. -/
structure ReadsIntegers (r : Row) (column : String) (v : Value) : Prop where
  /-- The reader of 64 bits gives the integer that the cell holds. -/
  int64_iff : ∀ n : Int64, r.getInt64 column = .ok (some n) ↔ v.HoldsInteger n.toInt
  /-- The reader of 32 bits gives it where it fits. -/
  int32_iff : ∀ m : Int32, r.getInt32 column = .ok (some m) ↔
    ∃ n : Int64, r.getInt64 column = .ok (some n) ∧ n.toInt = m.toInt
  /-- As a decimal number it has the same value and no places. -/
  decimal : ∀ n : Int64, r.getInt64 column = .ok (some n) →
    ∃ d : Decimal, r.getDecimal column = .ok (some d) ∧ d.toInt = n.toInt ∧ d.scale = 0
  /-- As a truth value it is false exactly if it is zero. -/
  bool : ∀ n : Int64, r.getInt64 column = .ok (some n) →
    r.getBool column = .ok (some (n ≠ 0))
  /-- It is there where NULL is not allowed. -/
  required : ∀ n : Int64, r.getInt64 column = .ok (some n) → r.requireInt64 column = .ok n
  /-- A cell that holds no integer of 64 bits is refused. -/
  refused64 : (∀ n : Int64, ¬v.HoldsInteger n.toInt) → ∃ reason,
    r.getInt64 column = .error (.decode column reason) ∧
      r.requireInt64 column = .error (.decode column reason)
  /-- A cell that holds no integer of 32 bits is refused by the narrower reader. -/
  refused32 : (∀ m : Int32, ¬v.HoldsInteger m.toInt) → ∃ reason,
    r.getInt32 column = .error (.decode column reason)

/-- A cell that is not NULL is read exactly or refused. -/
theorem FirstCell.readsIntegers (h : r.FirstCell column (some v)) : r.ReadsIntegers column v where
  int64_iff n := getInt64_eq_iff h
  int32_iff m := by
    rw [getInt32_eq_iff h]
    constructor
    · intro hm
      refine ⟨m.toInt64, (getInt64_eq_iff h).mpr ?_, Int32.toInt_toInt64 m⟩
      rwa [Int32.toInt_toInt64]
    · rintro ⟨n, hn, hm⟩
      rwa [← hm, ← getInt64_eq_iff h]
  decimal n hn := by
    have hv : v.asInt64 = some n := (read_eq_ok_some_iff h.get).mp hn
    refine ⟨.ofInt64 n, (read_eq_ok_some_iff h.get).mpr ?_, Decimal.toInt_ofInt64 n, rfl⟩
    split
    · cases hv
    · rw [hv, Option.map_some]
  bool n hn := by
    have hv : v.asInt64 = some n := (read_eq_ok_some_iff h.get).mp hn
    refine (read_eq_ok_some_iff h.get).mpr ?_
    split
    · cases hv
    · rw [hv, Option.map_some]
  required n hn := by rw [requireInt64, hn, require]
  refused64 hno := by
    have hread : r.getInt64 column = _ :=
      read_of_refused h.get (Value.asInt64_eq_none_iff.mpr hno)
    exact ⟨_, hread, by rw [requireInt64, hread, require]⟩
  refused32 hno := by
    refine ⟨_, read_of_refused h.get (Option.eq_none_iff_forall_ne_some.mpr fun m hm => ?_)⟩
    exact hno m ((getInt32_eq_iff h).mp ((read_eq_ok_some_iff h.get).mpr hm))

/-- A missing column is refused by every reader, and NULL is no value for those that allow it and
refused by those that do not. Any other cell is read as the integer it holds, whatever the width of
its word, or refused, and the readers of integers, decimal numbers and truth values agree on it. A
name that stands for several columns is read as the first of them. -/
theorem typed_readers_keep_integers (r : Row) (column : String) :
    (column ∉ r.columns →
      (∀ k, r.readBy column k = .error (.decode column "no such column")) ∧
        r.requireText column = .error (.decode column "no such column") ∧
        r.requireInt64 column = .error (.decode column "no such column")) ∧
    (r.FirstCell column none →
      (∀ k, r.readBy column k = .ok none) ∧
        r.requireText column = .error (.decode column "unexpected NULL") ∧
        r.requireInt64 column = .error (.decode column "unexpected NULL")) ∧
    (∀ v, r.FirstCell column (some v) → r.ReadsIntegers column v) ∧
    (column ∈ r.columns → ∃ cell, r.FirstCell column cell ∧
      ∀ other, r.FirstCell column other → other = cell) := by
  refine ⟨fun h => ?_, fun h => ?_, fun v h => h.readsIntegers, fun h => ?_⟩
  · have hread := readBy_of_notMem h
    refine ⟨hread, ?_, ?_⟩
    · exact congrArg (require column) (hread .text)
    · exact congrArg (require column) (hread .int64)
  · have hread := readBy_of_null h
    refine ⟨hread, ?_, ?_⟩
    · exact congrArg (require column) (hread .text)
    · exact congrArg (require column) (hread .int64)
  · obtain ⟨cell, hcell⟩ := exists_firstCell h
    exact ⟨cell, hcell, fun other hother => hother.unique hcell⟩

/-- The first integer past 32 bits, in the widest word and under the first of two columns with its
name, is read by the wider reader and refused by the narrower one. -/
theorem pastInt32_is_read :
    let r : Row := ⟨["n", "n"], [some (.bigint (.ofInt64 2147483648)), none]⟩
    r.FirstCell "n" (some (.bigint (.ofInt64 2147483648))) ∧
      r.getInt64 "n" = .ok (some 2147483648) ∧ r.requireInt64 "n" = .ok 2147483648 ∧
      ∃ reason, r.getInt32 "n" = .error (.decode "n" reason) := by
  intro r
  have hcell : r.FirstCell "n" (some (.bigint (.ofInt64 2147483648))) :=
    ⟨[], ["n"], rfl, List.not_mem_nil, rfl⟩
  have hreads := (typed_readers_keep_integers r "n").2.2.1 _ hcell
  have hread : r.getInt64 "n" = .ok (some 2147483648) := (hreads.int64_iff _).mpr (.bigint _)
  refine ⟨hcell, hread, hreads.required _ hread, hreads.refused32 fun m hm => ?_⟩
  have heq : m.toInt = 2147483648 := hm.unique (.bigint _)
  have hlt := m.toInt_lt
  omega

end Row

end SqlAccess
