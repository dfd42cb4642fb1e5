import SqlAccess.Number.Wide

/-!
# Numerals and integers in decimal notation

A numeral is a list of decimal digits, and an integer in decimal notation is a numeral behind a sign
or none. The readings of integers accept exactly these texts, as long as the integer lies
between the bounds of the reading.
-/

namespace SqlAccess.Number

/-- Decimal digits, at least one, and their number. -/
structure IsNumeral (ds : List Char) (n : Nat) : Prop where
  ne_nil : ds ≠ []
  digits : ∀ c ∈ ds, c.isDigit = true
  value : Nat.ofDigitChars 10 ds 0 = n

/-- A number is written as its numeral. -/
theorem isNumeral_toDigits (n : Nat) : IsNumeral (Nat.toDigits 10 n) n where
  ne_nil := Nat.toDigits_ne_nil
  digits _ h := Nat.isDigit_of_mem_toDigits (by decide) (by decide) h
  value := Nat.ofDigitChars_ten_toDigits

/-- A numeral does not start with another character. -/
theorem IsNumeral.isDigit_head {c : Char} {cs : List Char} {n : Nat} (h : IsNumeral (c :: cs) n) :
    c.isDigit = true :=
  h.digits c List.mem_cons_self

/-- An integer in decimal notation. -/
inductive IsInteger : List Char → Int → Prop
  | bare {ds : List Char} {n : Nat} (h : IsNumeral ds n) : IsInteger ds n
  | plus {ds : List Char} {n : Nat} (h : IsNumeral ds n) : IsInteger ('+' :: ds) n
  | minus {ds : List Char} {n : Nat} (h : IsNumeral ds n) : IsInteger ('-' :: ds) (-n)

/-- An integer is written in decimal notation. -/
theorem isInteger_toString (n : Int) : IsInteger (toString n).toList n := by
  have hnat (m : Nat) : IsNumeral (toString m).toList m := by
    rw [Nat.toString_eq_repr, Nat.toList_repr]
    exact isNumeral_toDigits m
  cases n with
  | ofNat m => exact .bare (hnat m)
  | negSucc m =>
    have hsign : (toString (Int.negSucc m)).toList = '-' :: (toString (m + 1)).toList :=
      String.toList_append
    rw [hsign, Int.negSucc_eq]
    exact .minus (hnat (m + 1))

/-- Decimal notation has at least one character. -/
theorem IsInteger.ne_nil {cs : List Char} {n : Int} (h : IsInteger cs n) : cs ≠ [] := by
  cases h with
  | bare h => exact h.ne_nil
  | plus _ => exact List.cons_ne_nil _ _
  | minus _ => exact List.cons_ne_nil _ _

/-- An empty text is no integer. -/
private theorem not_isInteger_nil {n : Int} : ¬IsInteger [] n := by
  rintro ⟨h⟩
  exact h.ne_nil rfl

/-- A numeral behind a plus is an integer as it is. -/
theorem isInteger_plus_iff {ds : List Char} {n : Int} :
    IsInteger ('+' :: ds) n ↔ ∃ m, IsNumeral ds m ∧ n = m := by
  constructor
  · intro h
    cases h with
    | bare h => cases h.isDigit_head
    | plus h => exact ⟨_, h, rfl⟩
  · rintro ⟨m, h, rfl⟩
    exact .plus h

/-- A numeral behind a minus is a negative integer, or zero. -/
theorem isInteger_minus_iff {ds : List Char} {n : Int} :
    IsInteger ('-' :: ds) n ↔ ∃ m, IsNumeral ds m ∧ n = -m := by
  constructor
  · intro h
    cases h with
    | bare h => cases h.isDigit_head
    | minus h => exact ⟨_, h, rfl⟩
  · rintro ⟨m, h, rfl⟩
    exact .minus h

/-- Without a sign only the numeral is left. -/
theorem isInteger_bare_iff {cs : List Char} {n : Int} (hplus : ∀ ds, cs ≠ '+' :: ds)
    (hminus : ∀ ds, cs ≠ '-' :: ds) : IsInteger cs n ↔ ∃ m, IsNumeral cs m ∧ n = m := by
  constructor
  · intro h
    cases h with
    | bare h => exact ⟨_, h, rfl⟩
    | @plus ds _ h => exact absurd rfl (hplus ds)
    | @minus ds _ h => exact absurd rfl (hminus ds)
  · rintro ⟨m, h, rfl⟩
    exact .bare h

/-! ## Readings -/

/-- More digits make no number smaller. -/
theorem le_ofDigitChars (cs : List Char) (a : Nat) : a ≤ Nat.ofDigitChars 10 cs a := by
  rw [Nat.ofDigitChars_eq_ofDigitChars_zero]
  exact Nat.le_add_right_of_le (Nat.le_mul_of_pos_left a (Nat.pow_pos (by decide)))

section Bounds

variable {low high sign n : Int} {overflow : IntegerError}

/-- Bounds around zero that hold a number hold the smaller ones of the same sign. -/
private theorem between_of_le (hlow : low ≤ 0) (hhigh : 0 ≤ high) (hsign : sign = 1 ∨ sign = -1)
    {a b : Nat} (hab : a ≤ b) (h : (low ≤ sign * b && sign * b ≤ high) = true) :
    (low ≤ sign * a && sign * a ≤ high) = true := by
  simp only [Bool.and_eq_true, decide_eq_true_eq] at h ⊢
  obtain rfl | rfl := hsign <;> omega

/-- Digits are added up as long as they are digits and the sum stays between the bounds. The last
sum decides, since the others are smaller. -/
theorem readDigits_eq_ok_iff (hlow : low ≤ 0) (hhigh : 0 ≤ high) (hsign : sign = 1 ∨ sign = -1)
    (cs : List Char) {a : Nat} (ha : (low ≤ sign * a && sign * a ≤ high) = true) :
    readDigits (fun m => low ≤ m && m ≤ high) sign overflow (sign * a) cs = .ok n ↔
      (∀ c ∈ cs, c.isDigit = true) ∧ n = sign * Nat.ofDigitChars 10 cs a ∧
        (low ≤ n && n ≤ high) = true := by
  induction cs generalizing a with
  | nil =>
    simp only [readDigits, List.not_mem_nil, false_imp_iff, implies_true, true_and,
      Nat.ofDigitChars_nil, Except.ok.injEq]
    constructor
    · rintro rfl
      exact ⟨rfl, ha⟩
    · rintro ⟨rfl, -⟩
      rfl
  | cons c cs ih =>
    have hnext : sign * (a : Int) * 10 + sign * (c.toNat - 48 : Nat) =
        sign * ((10 * a + (c.toNat - '0'.toNat) : Nat) : Int) := by
      rw [Int.natCast_add, Int.natCast_mul, Int.mul_add, Int.mul_assoc, Int.mul_comm (a : Int)]
      rfl
    rw [readDigits, hnext, Nat.ofDigitChars_cons, List.forall_mem_cons]
    cases hc : c.isDigit with
    | false =>
      constructor
      · intro h
        cases h
      · rintro ⟨⟨h, -⟩, -⟩
        cases h
    | true =>
      simp only [Bool.not_true, Bool.false_eq_true, if_false, true_and]
      split
      · rename_i hin
        exact ih hin
      · rename_i hout
        constructor
        · intro h
          cases h
        · rintro ⟨-, rfl, hn⟩
          exact absurd (between_of_le hlow hhigh hsign (le_ofDigitChars cs _) hn) hout

/-- From zero on a numeral is read, and nothing else. -/
theorem readDigits_zero_eq_ok_iff (hlow : low ≤ 0) (hhigh : 0 ≤ high)
    (hsign : sign = 1 ∨ sign = -1) {cs : List Char} (hne : cs ≠ []) :
    readDigits (fun m => low ≤ m && m ≤ high) sign overflow 0 cs = .ok n ↔
      (∃ m : Nat, IsNumeral cs m ∧ n = sign * m) ∧ low ≤ n ∧ n ≤ high := by
  have hzero : (low ≤ sign * (0 : Nat) && sign * (0 : Nat) ≤ high) = true := by
    simp [hlow, hhigh]
  rw [show (0 : Int) = sign * (0 : Nat) from (Int.mul_zero sign).symm,
    readDigits_eq_ok_iff hlow hhigh hsign cs hzero, Bool.and_eq_true, decide_eq_true_eq,
    decide_eq_true_eq]
  constructor
  · rintro ⟨hdigits, hn, hin⟩
    exact ⟨⟨_, ⟨hne, hdigits, rfl⟩, hn⟩, hin⟩
  · rintro ⟨⟨m, hm, hn⟩, hin⟩
    exact ⟨hm.digits, hm.value ▸ hn, hin⟩

/-- A reading accepts the integers between its bounds, and nothing else. -/
theorem readInt_eq_ok_iff (hlow : low ≤ 0) (hhigh : 0 ≤ high) {cs : List Char} :
    readInt low high cs = .ok n ↔ IsInteger cs n ∧ low ≤ n ∧ n ≤ high := by
  have hlone : ∀ {m : Nat}, ¬IsNumeral [] m := fun h => h.ne_nil rfl
  unfold readInt
  split
  case h_1 => simp [not_isInteger_nil]
  case h_2 => simp [isInteger_plus_iff, hlone]
  case h_3 => simp [isInteger_minus_iff, hlone]
  case h_4 rest hrest =>
    rw [isInteger_plus_iff, readDigits_zero_eq_ok_iff hlow hhigh (.inl rfl) hrest]
    simp only [Int.one_mul]
  case h_5 rest hrest =>
    rw [isInteger_minus_iff, readDigits_zero_eq_ok_iff hlow hhigh (.inr rfl) hrest]
    simp only [Int.neg_mul, Int.one_mul]
  case h_6 hne _ _ hplus hminus =>
    rw [isInteger_bare_iff hplus hminus,
      readDigits_zero_eq_ok_iff hlow hhigh (.inl rfl) hne]
    simp only [Int.one_mul]

end Bounds

namespace Int128

/-- An integer that fits is kept. -/
private theorem toInt_of_ofInt?_eq_some {n : Int} {m : Int128} (h : ofInt? n = some m) :
    m.toInt = n := by
  unfold ofInt? at h
  split at h <;> cases h
  rfl

/-- Every 128-bit integer fits. -/
private theorem ofInt?_toInt (m : Int128) :
    ofInt? m.toInt = some m := dif_pos ⟨m.le_toInt, m.toInt_lt⟩

/-- The widest reading accepts the integers that fit 128 bits. -/
theorem read_eq_ok_iff {cs : List Char} {m : Int128} : read cs = .ok m ↔ IsInteger cs m.toInt := by
  unfold read
  constructor
  · intro h
    split at h
    · cases h
    · rename_i n hread
      split at h
      · rename_i k hfits
        cases h
        rw [toInt_of_ofInt?_eq_some hfits]
        exact ((readInt_eq_ok_iff (by decide) (by decide)).mp hread).1
      · cases h
  · intro h
    have hread := (readInt_eq_ok_iff (by decide) (by decide)).mpr
      ⟨h, m.le_toInt, Int.le_sub_one_of_lt m.toInt_lt⟩
    rw [show (170141183460469231731687303715884105727 : Int) =
      170141183460469231731687303715884105728 - 1 from rfl, hread]
    simp only [ofInt?_toInt]

end Int128

end SqlAccess.Number
