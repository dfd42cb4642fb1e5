import SqlAccess.Postgres.Decode
import SqlAccess.Proofs.Number.Numeral
import SqlAccess.Proofs.Postgres.TwosComplement

/-!
# Integers as PostgreSQL parameters and cells

A parameter of an integer type takes every integer of the range of the type, in its exact binary
form, and no other number: nothing is cut. Text, decimal numbers and truth values are bound as the
integers they stand for, and a cell of the type gives the integer back.
-/

namespace SqlAccess

open Number

/-- The types of integers on a server. -/
inductive IntegerType
  | char
  | int2
  | int4
  | int8
  | oid
  deriving DecidableEq

namespace IntegerType

/-- The type of parameters and columns. -/
def pgType : IntegerType → PgType
  | .char => .char
  | .int2 => .int2
  | .int4 => .int4
  | .int8 => .int8
  | .oid => .oid

/-- How many bytes an integer takes. -/
def width : IntegerType → Nat
  | .char => 1
  | .int2 => 2
  | .int4 => 4
  | .int8 => 8
  | .oid => 4

/-- The range of a type. Object identifiers have no sign. -/
def Holds (T : IntegerType) (n : Int) : Prop :=
  match T with
  | .oid => 0 ≤ n ∧ n < 2 ^ 32
  | T => -2 ^ (8 * T.width - 1) ≤ n ∧ n < 2 ^ (8 * T.width - 1)

instance (T : IntegerType) (n : Int) : Decidable (T.Holds n) :=
  match T with
  | .oid | .char | .int2 | .int4 | .int8 => inferInstanceAs (Decidable (_ ∧ _))

/-- The exact binary form of an integer: its two's complement, which without a sign bit is the
number itself. -/
def bytes (T : IntegerType) (n : Int) : List UInt8 :=
  Wire.wordBytes (BitVec.ofInt (8 * T.width) n)

/-- The value of a cell that holds an integer. -/
def cell (T : IntegerType) (n : Int) : Value :=
  match T with
  | .char | .int2 | .int4 => .int (.ofInt n)
  | .int8 | .oid => .long (.ofInt n)

/-- The binary form is the one on a connection. -/
theorem bytes_eq_integer (T : IntegerType) (n : Int) : T.bytes n = Wire.integer T.width n :=
  (Wire.integer_eq_wordBytes T.width n).symm

/-- Bounds that are those of the range let the integers of the range through. -/
private theorem boundedInteger_eq {T : IntegerType} {width : Nat} {low high n : Int}
    (hwidth : T.width = width) (hrange : low ≤ n ∧ n ≤ high ↔ T.Holds n) :
    Value.boundedInteger width low high n =
      if T.Holds n then .ok (T.bytes n) else .error .outOfRange := by
  rw [bytes_eq_integer, hwidth]
  exact if_congr hrange rfl rfl

/-- Only integers of the range are bound, in their exact binary form. -/
private theorem encodeInteger_pgType (T : IntegerType) (v : Value) (n : Int) :
    v.encodeInteger n T.pgType =
      if T.Holds n then .ok (T.bytes n) else .error .outOfRange := by
  cases T <;> exact boundedInteger_eq rfl (by simp only [Holds, width]; omega)

/-! ## Cells -/

/-- A cell of the range holds its integer. -/
theorem integer?_cell {T : IntegerType} {n : Int} (h : T.Holds n) :
    (T.cell n).integer? = some n := by
  cases T with
  | char | int2 | int4 =>
    simp only [Holds, width] at h
    exact congrArg some (Int32.toInt_ofInt_of_le (by omega) (by omega))
  | int8 | oid =>
    simp only [Holds, width] at h
    exact congrArg some (Int64.toInt_ofInt_of_le (by omega) (by omega))

/-- Types with a sign give the integer back: their range is the half of all words around zero. -/
theorem signed_bytes {T : IntegerType} {n : Int} (hT : T ≠ .oid) (h : T.Holds n) :
    Wire.signed (T.bytes n) = n := by
  have hhalf : -((256 ^ T.width : Nat) : Int) ≤ 2 * n ∧ 2 * n < (256 ^ T.width : Nat) := by
    cases T with
    | oid => exact absurd rfl hT
    | char | int2 | int4 | int8 =>
      simp only [Holds, width] at h ⊢
      omega
  rw [bytes_eq_integer]
  exact Wire.signed_integer hhalf.1 hhalf.2

/-- So does the type without a sign. -/
theorem natural_bytes {n : Int} (h : oid.Holds n) : (Wire.natural (oid.bytes n) : Int) = n := by
  rw [bytes_eq_integer]
  exact Wire.natural_integer_of_nonneg h.1 h.2

/-- The binary form is read as its cell. -/
theorem readCell_bytes {T : IntegerType} {n : Int} (h : T.Holds n) (maxBlob : Nat) :
    Wire.readCell T.pgType maxBlob (T.bytes n) = some (T.cell n, []) := by
  have hexact : Wire.exactly T.width (T.bytes n) = some (T.bytes n) := by
    rw [bytes_eq_integer]
    exact if_pos (Wire.length_integer T.width n)
  cases T with
  | char | int2 | int4 | int8 =>
    simp only [width] at hexact
    simp only [pgType, Wire.readCell, hexact, Option.map_some, signed_bytes (by decide) h, cell]
  | oid =>
    simp only [width] at hexact
    simp only [pgType, Wire.readCell, hexact, Option.map_some, natural_bytes h, cell]

/-- A column of the type gives the cell. -/
theorem decode_bytes {T : IntegerType} {n : Int} (h : T.Holds n) (name : String)
    (index maxBlob : Nat) :
    (⟨name, T.pgType⟩ : PgColumn).decode index maxBlob (some (T.bytes n)) =
      .ok (some (T.cell n), []) := by
  have hkind : ∀ s, T.pgType.columnKind ≠ .unsupported s := by
    intro s hs
    cases T <;> cases hs
  exact PgColumn.decode_of_readCell hkind (readCell_bytes h maxBlob) index

/-! ## Parameters -/

/-- Every value that holds an integer is bound by the integer alone. -/
theorem encode_of_integer? {v : Value} {n : Int} (h : v.integer? = some n) (T : IntegerType) :
    v.encode T.pgType = if T.Holds n then .ok (some (T.bytes n)) else .error .outOfRange := by
  have hencode : v.encode T.pgType = (v.encodeInteger n T.pgType).map some := by
    cases v <;> cases h <;> rfl
  rw [hencode, encodeInteger_pgType]
  split <;> rfl

/-- An integer behind any value is bound like every value that holds it. -/
theorem map_encodeInteger (v : Value) {w : Value} {n : Int} (h : w.integer? = some n)
    (T : IntegerType) : (v.encodeInteger n T.pgType).map some = w.encode T.pgType := by
  rw [encode_of_integer? h, encodeInteger_pgType]
  split <;> rfl

/-- Text is bound as text. -/
private theorem encode_eq_encodeText {v : Value} {s : String} (hv : v = .text s ∨ v = .other s)
    (t : PgType) : v.encode t = (v.encodeText s t).map some := by
  obtain rfl | rfl := hv <;> rfl

/-- Text that is an integer is bound as the integer. -/
theorem encode_text_of_read {T : IntegerType} (hT : T ≠ .char) {v : Value} {s : String}
    (hv : v = .text s ∨ v = .other s) {m : Int128}
    (hread : Int128.read (Text.trim s).toList = .ok m) :
    v.encode T.pgType = (Value.bigint m).encode T.pgType := by
  have htext : v.encodeText s T.pgType = v.encodeInteger m.toInt T.pgType := by
    cases T with
    | char => exact absurd rfl hT
    | int2 | int4 | int8 | oid =>
      unfold Value.encodeText
      simp only [pgType, hread]
  rw [encode_eq_encodeText hv, htext, map_encodeInteger v (w := .bigint m) rfl]

/-- Other text is refused. -/
theorem encode_text_of_error {T : IntegerType} (hT : T ≠ .char) {v : Value} {s : String}
    (hv : v = .text s ∨ v = .other s) {e : IntegerError}
    (hread : Int128.read (Text.trim s).toList = .error e) :
    v.encode T.pgType = .error (.notInteger e) := by
  have htext : v.encodeText s T.pgType = .error (.notInteger e) := by
    cases T with
    | char => exact absurd rfl hT
    | int2 | int4 | int8 | oid =>
      unfold Value.encodeText
      simp only [pgType, hread]
  rw [encode_eq_encodeText hv, htext]
  rfl

end IntegerType

namespace Number.Decimal

/-- The mantissa with its sign. -/
def signedMantissa (d : Decimal) : Int := if d.negative then -d.mantissa else d.mantissa

/-- A number without a fraction is its integer part. -/
theorem toInt_mul_pow {d : Decimal} (h : 10 ^ d.scale ∣ d.mantissa) :
    d.toInt * (10 ^ d.scale : Nat) = d.signedMantissa := by
  have hwhole : ((d.mantissa / 10 ^ d.scale : Nat) : Int) * (10 ^ d.scale : Nat) = d.mantissa := by
    rw [← Int.natCast_mul, Nat.div_mul_cancel h]
  unfold toInt signedMantissa
  split
  · rw [Int.neg_mul]
    exact congrArg Neg.neg hwhole
  · exact hwhole

/-- Every integer part fits 128 bits. -/
theorem exists_int128 (d : Decimal) : ∃ m : Int128, m.toInt = d.toInt := by
  have hwhole : d.mantissa / Nat.pow 10 d.scale < mantissaBound :=
    Nat.lt_of_le_of_lt (Nat.div_le_self _ _) d.mantissa_lt
  have habs : d.toInt.natAbs = d.mantissa / Nat.pow 10 d.scale := by
    unfold toInt
    split
    · rw [Int.natAbs_neg, Int.natAbs_natCast]
    · rw [Int.natAbs_natCast]
  rw [← habs, mantissaBound] at hwhole
  exact ⟨⟨d.toInt, by omega, by omega⟩, rfl⟩

end Number.Decimal

namespace IntegerType

/-- A decimal number is bound as its integer part, or refused for its fraction. -/
theorem encode_decimal {T : IntegerType} (hT : T ≠ .char ∧ T ≠ .oid) (d : Decimal) :
    (Value.decimal d).encode T.pgType =
      if 10 ^ d.scale ∣ d.mantissa then
        ((Value.decimal d).encodeInteger d.toInt T.pgType).map some
      else .error (.mismatch "decimal" T.pgType) := by
  have hencode : (Value.decimal d).encode T.pgType =
      (if d.isIntegral then (Value.decimal d).encodeInteger d.toInt T.pgType
        else (Value.decimal d).refused T.pgType).map some := by
    cases T with
    | char => exact absurd rfl hT.1
    | oid => exact absurd rfl hT.2
    | int2 | int4 | int8 => rfl
  have hwhole : d.isIntegral = true ↔ 10 ^ d.scale ∣ d.mantissa := by
    rw [Nat.dvd_iff_mod_eq_zero]
    exact beq_iff_eq
  rw [hencode]
  by_cases h : 10 ^ d.scale ∣ d.mantissa
  · rw [if_pos (hwhole.mpr h), if_pos h]
  · rw [if_neg fun hi => h (hwhole.mp hi), if_neg h]
    rfl

/-- A truth value is bound as zero or one. -/
theorem encode_bool {T : IntegerType} (hT : T ≠ .char ∧ T ≠ .oid) (b : Bool) :
    (Value.bool b).encode T.pgType = (Value.int (if b then 1 else 0)).encode T.pgType := by
  have hencode : (Value.bool b).encode T.pgType =
      ((Value.bool b).encodeInteger (if b then 1 else 0) T.pgType).map some := by
    cases T with
    | char => exact absurd rfl hT.1
    | oid => exact absurd rfl hT.2
    | int2 | int4 | int8 => rfl
  have hint : (Value.int (if b then 1 else 0)).integer? = some (if b then 1 else 0) := by
    cases b <;> rfl
  rw [hencode, map_encodeInteger _ hint]

/-- No single float becomes an integer. -/
theorem encode_float (T : IntegerType) (x : Single) :
    (Value.float x).encode T.pgType = .error (.mismatch "float" T.pgType) := by
  cases T <;> rfl

/-- No double becomes an integer. -/
theorem encode_double (T : IntegerType) (x : Double) :
    (Value.double x).encode T.pgType = .error (.mismatch "double" T.pgType) := by
  cases T <;> rfl

/-- Integers are bound to the types of integers as they are or not at all, and read back as
they are. Text that is an integer, decimal numbers without a fraction and truth values
are bound as their integers; other text, fractions and floating-point numbers are refused. -/
theorem integers_are_bound_and_read_back (T : IntegerType) :
    (∀ (v : Value) (n : Int), v.integer? = some n →
      v.encode T.pgType =
        (if T.Holds n then .ok (some (T.bytes n)) else .error .outOfRange) ∧
      (T.Holds n → (T.cell n).integer? = some n ∧ ∀ (name : String) (index maxBlob : Nat),
        (⟨name, T.pgType⟩ : PgColumn).decode index maxBlob (some (T.bytes n)) =
          .ok (some (T.cell n), []))) ∧
    (T ≠ .char → ∀ (s : String) (v : Value), v = .text s ∨ v = .other s →
      (∀ m : Int128, IsInteger (Text.trim s).toList m.toInt →
        v.encode T.pgType = (Value.bigint m).encode T.pgType) ∧
      ((∀ m : Int128, ¬IsInteger (Text.trim s).toList m.toInt) →
        ∃ e, v.encode T.pgType = .error (.notInteger e))) ∧
    (T ≠ .char ∧ T ≠ .oid →
      (∀ d : Decimal,
        (10 ^ d.scale ∣ d.mantissa → ∃ m : Int128,
          m.toInt * (10 ^ d.scale : Nat) = d.signedMantissa ∧
          (Value.decimal d).encode T.pgType = (Value.bigint m).encode T.pgType) ∧
        (¬10 ^ d.scale ∣ d.mantissa →
          (Value.decimal d).encode T.pgType = .error (.mismatch "decimal" T.pgType))) ∧
      ∀ b : Bool,
        (Value.bool b).encode T.pgType = (Value.int (if b then 1 else 0)).encode T.pgType) ∧
    (∀ x : Single, (Value.float x).encode T.pgType = .error (.mismatch "float" T.pgType)) ∧
    ∀ x : Double, (Value.double x).encode T.pgType = .error (.mismatch "double" T.pgType) := by
  refine ⟨fun v n hv => ?_, fun hT s v hv => ⟨fun m hm => ?_, fun hnone => ?_⟩,
    fun hT => ⟨fun d => ⟨fun hwhole => ?_, fun hfraction => ?_⟩, encode_bool hT⟩,
    encode_float T, encode_double T⟩
  · exact ⟨encode_of_integer? hv T, fun h => ⟨integer?_cell h, decode_bytes h⟩⟩
  · exact encode_text_of_read hT hv (Int128.read_eq_ok_iff.mpr hm)
  · cases hread : Int128.read (Text.trim s).toList with
    | ok m => exact absurd (Int128.read_eq_ok_iff.mp hread) (hnone m)
    | error e => exact ⟨e, encode_text_of_error hT hv hread⟩
  · obtain ⟨m, hm⟩ := d.exists_int128
    refine ⟨m, ?_, ?_⟩
    · rw [hm, Decimal.toInt_mul_pow hwhole]
    · rw [encode_decimal hT, if_pos hwhole, map_encodeInteger _ (w := .bigint m) (congrArg some hm)]
  · rw [encode_decimal hT, if_neg hfraction]

/-- Seven as a long integer, as text and as a decimal number. -/
theorem seven_is_bound_and_read_back :
    (Value.long 7).encode .int2 = .ok (some [0, 7]) ∧
    (⟨"n", .int2⟩ : PgColumn).decode 0 100 (some [0, 7]) = .ok (some (.int 7), []) ∧
    (Value.text " +07 ").encode .int2 = .ok (some [0, 7]) ∧
    (∃ e, (Value.other "seven").encode .int2 = .error (.notInteger e)) ∧
    (∃ m : Int128, m.toInt * 100 = 700 ∧
      (Value.decimal ⟨false, 700, 2, by decide, by decide⟩).encode .int2 =
        (Value.bigint m).encode .int2) ∧
    (Value.decimal ⟨false, 701, 2, by decide, by decide⟩).encode .int2 =
      .error (.mismatch "decimal" .int2) := by
  obtain ⟨hinteger, htext, hothers, -⟩ := integers_are_bound_and_read_back .int2
  obtain ⟨hdecimal, -⟩ := hothers (by decide)
  have hseven : IsInteger (Text.trim " +07 ").toList (⟨7, by decide, by decide⟩ : Int128).toInt :=
    Int128.read_eq_ok_iff.mp rfl
  have hword : ¬∃ m : Int128, IsInteger (Text.trim "seven").toList m.toInt := by
    rintro ⟨m, hm⟩
    rw [← Int128.read_eq_ok_iff] at hm
    cases hm
  obtain ⟨hbound, hread⟩ := hinteger (.long 7) 7 rfl
  obtain ⟨m, hm, hwhole⟩ :=
    (hdecimal ⟨false, 700, 2, by decide, by decide⟩).1 (by decide)
  refine ⟨hbound, (hread (by decide)).2 "n" 0 100, ?_, ?_, ⟨m, hm, hwhole⟩, ?_⟩
  · exact ((htext (by decide) " +07 " _ (.inl rfl)).1 _ hseven).trans rfl
  · exact (htext (by decide) "seven" _ (.inr rfl)).2 fun m hm => hword ⟨m, hm⟩
  · exact (hdecimal _).2 (by decide)

end IntegerType

end SqlAccess
