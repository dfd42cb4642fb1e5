import SqlAccess.Json.Reading
import SqlAccess.Proofs.Number.Numeral
import SqlAccess.Proofs.Number.Shortest

/-!
# Numbers in JSON texts are read back

A number that is taken apart is written again part by part. What is written so is read as the same
parts if they are digits and no digit follows a leading zero. Integers and the shortest texts of
finite floating-point numbers are of this kind.
-/

namespace SqlAccess

/-- Digits in a row, at least one. -/
structure DigitRun (ds : List Char) : Prop where
  ne_nil : ds ≠ []
  digits : ∀ c ∈ ds, c.isDigit = true

/-- The digits of a number are a run of digits. -/
theorem digitRun_toDigits (n : Nat) : DigitRun (Nat.toDigits 10 n) where
  ne_nil := Nat.toDigits_ne_nil
  digits _ h := Nat.isDigit_of_mem_toDigits (by decide) (by decide) h

/-- A digit differs from every character that is none. -/
theorem ne_of_isDigit {c d : Char} (hc : c.isDigit = true) (hd : d.isDigit = false) : c ≠ d := by
  rintro rfl
  rw [hc] at hd
  cases hd

namespace DigitRun

variable {ds : List Char}

/-- Zeros may stand behind digits. -/
theorem append_zeros (h : DigitRun ds) (count : Nat) :
    DigitRun (ds ++ List.replicate count '0') where
  ne_nil := List.append_ne_nil_of_left_ne_nil h.ne_nil _
  digits c hc := by
    rcases List.mem_append.mp hc with hc | hc
    · exact h.digits c hc
    · rw [List.eq_of_mem_replicate hc]
      rfl

/-- Zeros may stand before digits. -/
theorem zeros_append (h : DigitRun ds) (count : Nat) :
    DigitRun (List.replicate count '0' ++ ds) where
  ne_nil := List.append_ne_nil_of_right_ne_nil _ h.ne_nil
  digits c hc := (h.append_zeros count).digits c (by simpa [or_comm] using hc)

/-- The beginning of a run of digits is one. -/
theorem take (h : DigitRun ds) {count : Nat} (hcount : count ≠ 0) : DigitRun (ds.take count) where
  ne_nil := by simp [List.take_eq_nil_iff, hcount, h.ne_nil]
  digits c hc := h.digits c (List.mem_of_mem_take hc)

/-- What is left of a run of digits is one. -/
theorem drop (h : DigitRun ds) {count : Nat} (hcount : count < ds.length) :
    DigitRun (ds.drop count) where
  ne_nil := by simpa using hcount
  digits c hc := h.digits c (List.mem_of_mem_drop hc)

end DigitRun

/-- Only zero is written with a leading zero. -/
theorem eq_zero_of_head?_toDigits {n : Nat} (h : (Nat.toDigits 10 n).head? = some '0') : n = 0 := by
  induction n using Nat.strongRecOn with
  | ind n ih =>
    rw [Nat.toDigits_eq_if (by decide)] at h
    split at h
    · rename_i hn
      have hdigit : ∀ m < 10, Nat.digitChar m = '0' → m = 0 := by decide
      exact hdigit n hn (Option.some.inj h)
    · rename_i hn
      rw [List.head?_append_of_ne_nil _ Nat.toDigits_ne_nil] at h
      have := ih (n / 10) (by omega) h
      omega

/-- A text does not start with a character that has a property. -/
def StartsOff (p : Char → Bool) (cs : List Char) : Prop := ∀ c ∈ cs.head?, p c = false

/-- An empty text starts with nothing that is asked for. -/
theorem startsOff_nil (p : Char → Bool) : StartsOff p [] := by
  rintro c ⟨⟩

/-- A text starts off with its first character. -/
theorem startsOff_cons {p : Char → Bool} {c : Char} (h : p c = false) (cs : List Char) :
    StartsOff p (c :: cs) := by
  rintro _ ⟨⟩
  exact h

/-- A run of digits starts with nothing that excludes all digits. -/
theorem DigitRun.startsOff {p : Char → Bool} {ds : List Char} (h : DigitRun ds)
    (hp : ∀ c, c.isDigit = true → p c = false) (rest : List Char) : StartsOff p (ds ++ rest) := by
  obtain ⟨c, ds, rfl⟩ := List.exists_cons_of_ne_nil h.ne_nil
  exact startsOff_cons (hp c (h.digits c List.mem_cons_self)) _

namespace NumberText

/-! ## The text of a number -/

/-- A minus sign or nothing. -/
def signText (negative : Bool) : List Char := if negative then ['-'] else []

/-- A point with the digits behind it, or nothing. -/
def placesText : Option (List Char) → List Char
  | none => []
  | some ds => '.' :: ds

/-- An exponent or nothing. -/
def exponentText : Option (Bool × List Char) → List Char
  | none => []
  | some (down, ds) => 'e' :: (signText down ++ ds)

/-- The text of a number. -/
def text (n : NumberText) : List Char :=
  signText n.negative ++ n.whole ++ placesText n.places ++ exponentText n.exponent

/-- The parts of a number are digits, and none follows a leading zero. -/
structure WellFormed (n : NumberText) : Prop where
  whole : DigitRun n.whole
  zero : n.whole.head? = some '0' → n.whole = ['0']
  places : ∀ ds ∈ n.places, DigitRun ds
  exponent : ∀ e ∈ n.exponent, DigitRun e.2

/-- The characters that go on with a number. -/
def goesOn (c : Char) : Bool := c.isDigit || c = '.' || c = 'e' || c = 'E'

end NumberText

namespace JsonText

open NumberText

variable {rest : List Char}

/-- A run of digits is read up to its end. -/
theorem readDigits_append {ds : List Char} (h : DigitRun ds)
    (hrest : StartsOff Char.isDigit rest) : readDigits (ds ++ rest) = some (ds, rest) := by
  have htake : (ds ++ rest).takeWhile Char.isDigit = ds := by
    rw [List.takeWhile_append_of_pos h.digits]
    cases rest with
    | nil => simp
    | cons c rest => simp [hrest c rfl]
  simp only [readDigits, htake, List.isEmpty_iff, h.ne_nil, if_false, List.drop_left]

/-- A sign reads back, as long as no other one follows. -/
theorem readSign_text (negative : Bool) (h : StartsOff (· = '-') rest) :
    readSign (signText negative ++ rest) = (negative, rest) := by
  cases negative with
  | true => rfl
  | false =>
    rw [signText, if_neg Bool.false_ne_true, List.nil_append, readSign]
    rintro cs rfl
    cases h '-' rfl

/-- The digits before the point read back, as no zero leads others. -/
theorem readWhole_append {ds : List Char} (h : DigitRun ds)
    (hzero : ds.head? = some '0' → ds = ['0']) (hrest : StartsOff Char.isDigit rest) :
    readWhole (ds ++ rest) = some (ds, rest) := by
  by_cases hd : ds = ['0']
  · subst hd
    cases rest with
    | nil => rfl
    | cons c rest => simp [readWhole, hrest c rfl]
  · rw [readWhole, readDigits_append h hrest]
    intro cs hcs
    obtain ⟨c, ds, rfl⟩ := List.exists_cons_of_ne_nil h.ne_nil
    cases hcs
    exact hd (hzero rfl)

/-- The digits behind the point read back. -/
theorem readPlaces_text {places : Option (List Char)} (h : ∀ ds ∈ places, DigitRun ds)
    (hrest : StartsOff (fun c => c.isDigit || c = '.') rest) :
    readPlaces (placesText places ++ rest) = some (places, rest) := by
  cases places with
  | none =>
    rw [placesText, List.nil_append, readPlaces]
    rintro cs rfl
    cases hrest '.' rfl
  | some ds =>
    have hdigits : StartsOff Char.isDigit rest :=
      fun c hc => (Bool.or_eq_false_iff.mp (hrest c hc)).1
    rw [placesText, List.cons_append, readPlaces, readDigits_append (h ds rfl) hdigits]
    rfl

/-- The digits of a power of ten read back with their sign. -/
theorem readPower_text {down : Bool} {ds : List Char} (h : DigitRun ds)
    (hrest : StartsOff Char.isDigit rest) :
    readPower (signText down ++ ds ++ rest) = some ((down, ds), rest) := by
  have hread := readDigits_append h hrest
  cases down with
  | true =>
    rw [signText, if_pos rfl, List.append_assoc, List.singleton_append, readPower, hread]
    rfl
  | false =>
    have hsign : StartsOff (fun c => c = '-' || c = '+') (ds ++ rest) :=
      h.startsOff (fun c hc => by simp [ne_of_isDigit hc]) rest
    rw [signText, if_neg Bool.false_ne_true, List.nil_append, readPower, hread]
    · rfl
    · intro cs hcs
      cases hsign '-' (by rw [hcs]; rfl)
    · intro cs hcs
      cases hsign '+' (by rw [hcs]; rfl)

/-- An exponent reads back, whether there is one or not. -/
theorem readExponent_text {exponent : Option (Bool × List Char)}
    (h : ∀ e ∈ exponent, DigitRun e.2) (hrest : StartsOff goesOn rest) :
    readExponent (exponentText exponent ++ rest) = some (exponent, rest) := by
  cases exponent with
  | none =>
    rw [exponentText, List.nil_append, readExponent]
    · rintro cs rfl
      cases hrest 'e' rfl
    · rintro cs rfl
      cases hrest 'E' rfl
  | some e =>
    have hdigits : StartsOff Char.isDigit rest := by
      intro c hc
      have := hrest c hc
      simp only [goesOn, Bool.or_eq_false_iff] at this
      exact this.1.1.1
    rw [exponentText, List.cons_append, readExponent, readPower_text (h e rfl) hdigits]
    rfl

/-- A number is read back from its text, whatever follows that does not go on with it. -/
theorem readNumber_text {n : NumberText} (h : n.WellFormed) (hrest : StartsOff goesOn rest) :
    readNumber (n.text ++ rest) = some (n, rest) := by
  have hexponent : StartsOff (fun c => c.isDigit || c = '.') (exponentText n.exponent ++ rest) := by
    cases n.exponent with
    | none =>
      intro c hc
      have := hrest c hc
      simp only [goesOn, Bool.or_eq_false_iff] at this
      simp [this]
    | some e => exact startsOff_cons rfl _
  have hplaces : StartsOff Char.isDigit
      (placesText n.places ++ (exponentText n.exponent ++ rest)) := by
    cases n.places with
    | none => exact fun c hc => (Bool.or_eq_false_iff.mp (hexponent c hc)).1
    | some ds => exact startsOff_cons rfl _
  have hsign : StartsOff (· = '-')
      (n.whole ++ (placesText n.places ++ (exponentText n.exponent ++ rest))) :=
    h.whole.startsOff (fun c hc => decide_eq_false (ne_of_isDigit hc rfl)) _
  rw [NumberText.text, List.append_assoc, List.append_assoc, List.append_assoc, readNumber,
    readSign_text _ hsign]
  simp only [readWhole_append h.whole h.zero hplaces, readPlaces_text h.places hexponent,
    readExponent_text h.exponent hrest, Option.bind_eq_bind, Option.bind_some]
  rfl

end JsonText

namespace NumberText

/-! ## Integers -/

/-- An integer as written. -/
def ofInt (n : Int) : NumberText := ⟨n < 0, Nat.toDigits 10 n.natAbs, none, none⟩

/-- The parts of an integer are well formed. -/
theorem wellFormed_ofInt (n : Int) : (ofInt n).WellFormed where
  whole := digitRun_toDigits n.natAbs
  zero h := by
    rw [ofInt] at h ⊢
    rw [eq_zero_of_head?_toDigits h]
    rfl
  places := nofun
  exponent := nofun

/-- An integer is written by its sign and the digits of its magnitude. -/
theorem toList_toString_int (n : Int) :
    (toString n).toList = signText (n < 0) ++ Nat.toDigits 10 n.natAbs := by
  cases n with
  | ofNat m => exact Nat.toList_repr
  | negSucc m =>
    have hsign : (toString (Int.negSucc m)).toList = '-' :: (toString (m + 1)).toList :=
      String.toList_append
    rw [hsign, Nat.toString_eq_repr, Nat.toList_repr, decide_eq_true (Int.negSucc_lt_zero m)]
    rfl

/-- The parts of an integer spell its text. -/
theorem text_ofInt (n : Int) : (ofInt n).text = (toString n).toList := by
  rw [toList_toString_int, text]
  simp [ofInt, placesText, exponentText]

/-- A word is read digit by digit as long as the whole number fits. -/
theorem leadingWord_eq {ds : List Char} {a : Nat} (h : Nat.ofDigitChars 10 ds a ≤ wordMax) :
    leadingWord a ds = (Nat.ofDigitChars 10 ds a, 0) := by
  induction ds generalizing a with
  | nil => rfl
  | cons c ds ih =>
    rw [Nat.ofDigitChars_cons, Nat.mul_comm 10] at h ⊢
    have hnext : a * 10 + (c.toNat - 48) ≤ wordMax := (Number.le_ofDigitChars ds _).trans h
    simp only [leadingWord, if_pos hnext]
    exact ih h

/-- An integer of 64 bits, signed or unsigned, is read back from its text. -/
theorem value?_ofInt {n : Int} (hlow : -9223372036854775808 ≤ n) (hhigh : n ≤ wordMax) :
    (ofInt n).value? = some (.int n) := by
  have hmax : (wordMax : Int) = 18446744073709551615 := rfl
  have hfits : Nat.ofDigitChars 10 (Nat.toDigits 10 n.natAbs) 0 ≤ wordMax := by
    rw [Nat.ofDigitChars_ten_toDigits]
    omega
  simp only [value?, ofInt, leadingWord_eq hfits, Nat.ofDigitChars_ten_toDigits, true_and,
    Bool.not_eq_true', decide_eq_false_iff_not, Int.not_lt]
  split
  · rename_i hn
    rw [Int.natAbs_of_nonneg hn]
  · rename_i hn
    have hword : n.natAbs ≠ 0 ∧ n.natAbs ≤ 9223372036854775808 := by omega
    rw [if_pos hword]
    congr
    omega

/-! ## Floating-point numbers -/

/-- Digits with a power of ten as written. -/
def ofDecimals (negative : Bool) (d : Number.Decimals) : NumberText :=
  let digits := Nat.toDigits 10 d.digits
  let point : Int := digits.length + d.power
  if 0 ≤ d.power ∧ point ≤ 16 then
    ⟨negative, digits ++ List.replicate d.power.toNat '0', some ['0'], none⟩
  else if -5 < point ∧ point ≤ 16 then
    let places := (-d.power).toNat
    if places < digits.length then
      ⟨negative, digits.take (digits.length - places), some (digits.drop (digits.length - places)),
        none⟩
    else ⟨negative, ['0'], some (List.replicate (places - digits.length) '0' ++ digits), none⟩
  else
    let tail := digits.drop 1
    ⟨negative, digits.take 1, if tail.isEmpty then none else some tail,
      some (point - 1 < 0, Nat.toDigits 10 (point - 1).natAbs)⟩

/-- The parts of shortest digits spell their compact text. -/
theorem text_ofDecimals (negative : Bool) (d : Number.Decimals) :
    (ofDecimals negative d).text = signText negative ++ d.compact.toList := by
  unfold ofDecimals Number.Decimals.compact
  simp only
  split
  · rename_i h
    simp [text, placesText, exponentText, Number.Decimals.positional, h.1]
  split
  · rename_i h₁ h₂
    have hpower : ¬0 ≤ d.power := fun h => h₁ ⟨h, h₂.2⟩
    simp only [Number.Decimals.positional, if_neg hpower]
    split <;> simp [text, placesText, exponentText]
  · rw [String.toList_append, String.toList_append, String.toList_ofList, toList_toString_int]
    split <;> simp [text, placesText, exponentText]

/-- Zeros behind the digits do not stand behind a lone zero, which comes without a power. -/
theorem wellFormed_zeros (negative : Bool) {d : Number.Decimals}
    (hzero : d.digits = 0 → d.power = 0) :
    WellFormed ⟨negative, Nat.toDigits 10 d.digits ++ List.replicate d.power.toNat '0',
      some ['0'], none⟩ := by
  have hdigits := digitRun_toDigits d.digits
  have hone : DigitRun ['0'] := digitRun_toDigits 0
  refine ⟨hdigits.append_zeros _, fun h => ?_, by rintro _ ⟨⟩; exact hone, nofun⟩
  rw [List.head?_append_of_ne_nil _ hdigits.ne_nil] at h
  have hd := eq_zero_of_head?_toDigits h
  simp [hd, hzero hd]

/-- A point stands within the digits, and so not behind a zero in front of others. -/
theorem wellFormed_pointed (negative : Bool) {d : Number.Decimals}
    (hzero : d.digits = 0 → d.power = 0) {places : Nat} (hpower : places = (-d.power).toNat)
    (hpoint : ¬0 ≤ d.power) (hplaces : places < (Nat.toDigits 10 d.digits).length) :
    WellFormed ⟨negative,
      (Nat.toDigits 10 d.digits).take ((Nat.toDigits 10 d.digits).length - places),
      some ((Nat.toDigits 10 d.digits).drop ((Nat.toDigits 10 d.digits).length - places)),
      none⟩ := by
  have hdigits := digitRun_toDigits d.digits
  have htake : (Nat.toDigits 10 d.digits).length - places ≠ 0 := by omega
  refine ⟨hdigits.take htake, fun h => ?_, ?_, nofun⟩
  · rw [List.head?_take, if_neg htake] at h
    have hd := eq_zero_of_head?_toDigits h
    have := hzero hd
    omega
  · rintro _ ⟨⟩
    exact hdigits.drop (by omega)

/-- With an exponent one digit stands before the point, and those behind it are left out if there
are none. -/
theorem wellFormed_scientific (negative : Bool) (n : Nat) (down : Bool) (exponent : Nat) :
    WellFormed ⟨negative, (Nat.toDigits 10 n).take 1,
      if ((Nat.toDigits 10 n).drop 1).isEmpty then none else some ((Nat.toDigits 10 n).drop 1),
      some (down, Nat.toDigits 10 exponent)⟩ := by
  have hdigits := digitRun_toDigits n
  refine ⟨hdigits.take Nat.one_ne_zero, fun h => ?_, fun ds hds => ?_, ?_⟩
  · obtain ⟨c, ds, hds⟩ := List.exists_cons_of_ne_nil hdigits.ne_nil
    rw [hds] at h ⊢
    cases h
    rfl
  · simp only [Option.mem_def] at hds
    split at hds
    · cases hds
    · rename_i htail
      rw [List.isEmpty_iff, List.drop_eq_nil_iff, Nat.not_le] at htail
      cases hds
      exact hdigits.drop htail
  · rintro _ ⟨⟩
    exact digitRun_toDigits _

/-- Digits with a power of ten are written well if zero comes without a power. -/
theorem wellFormed_ofDecimals (negative : Bool) {d : Number.Decimals}
    (hzero : d.digits = 0 → d.power = 0) : (ofDecimals negative d).WellFormed := by
  have hdigits := digitRun_toDigits d.digits
  have hone : DigitRun ['0'] := digitRun_toDigits 0
  unfold ofDecimals
  simp only
  split
  · exact wellFormed_zeros negative hzero
  split
  · rename_i hwhole hpoint
    split
    · rename_i hplaces
      exact wellFormed_pointed negative hzero rfl (fun h => hwhole ⟨h, hpoint.2⟩) hplaces
    · exact ⟨hone, fun _ => rfl, by rintro _ ⟨⟩; exact hdigits.zeros_append _, nofun⟩
  · exact wellFormed_scientific negative _ _ _

/-- A finite floating-point number as written. -/
def ofDouble (x : Number.Double) : NumberText :=
  match x.datum with
  | .finite negative mantissa power =>
    ofDecimals negative (Number.Layout.double.shortest mantissa power)
  | _ => ofInt 0

/-- The parts of a double are well formed. -/
theorem wellFormed_ofDouble (x : Number.Double) : (ofDouble x).WellFormed := by
  unfold ofDouble
  split
  · exact wellFormed_ofDecimals _ Number.Layout.double.shortest_power_eq_zero
  · exact wellFormed_ofInt 0

/-- The parts of a finite double spell its compact text. -/
theorem text_ofDouble {x : Number.Double} (h : x.isFinite = true) :
    (ofDouble x).text = x.compactText.toList := by
  unfold ofDouble Number.Double.compactText
  unfold Number.Double.isFinite at h
  split
  · rename_i hx
    rw [hx, text_ofDecimals, Number.Layout.text, String.toList_append, signText]
    split <;> rfl
  · rename_i hx
    split at h
    · rename_i heq
      exact absurd heq (hx _ _ _)
    · cases h

end NumberText

end SqlAccess
