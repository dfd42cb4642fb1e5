import SqlAccess.Text.Bytes

/-!
# Text is read back from its bytes

The first byte of a character announces how many bytes it has and what its second byte may be. The
bytes that a character is written with keep to that, whatever follows them, so every text is read
back from its bytes.
-/

namespace SqlAccess.Text

/-! ## First bytes -/

/-- The bytes that lead two. -/
private theorem leadByte_two {b : UInt8} (h : 194 ≤ b.toNat ∧ b.toNat ≤ 223) :
    leadByte b = some (2, 128, 191) := by
  simp only [leadByte, UInt8.le_iff_toNat_le, Bool.and_eq_true, decide_eq_true_eq]
  exact if_pos h

/-- Of three bytes the second is bounded where the character would fit two bytes or would be
half of a pair. -/
theorem leadByte_three {b c : UInt8} (hb : 224 ≤ b.toNat ∧ b.toNat ≤ 239)
    (hc : 128 ≤ c.toNat ∧ c.toNat ≤ 191) (hlong : b.toNat = 224 → 160 ≤ c.toNat)
    (hpair : b.toNat = 237 → c.toNat ≤ 159) :
    ∃ low high, leadByte b = some (3, low, high) ∧ low ≤ c ∧ c ≤ high := by
  simp only [leadByte, UInt8.le_iff_toNat_le, Bool.and_eq_true, decide_eq_true_eq, beq_iff_eq,
    ← UInt8.toNat_inj, UInt8.reduceToNat]
  rw [if_neg (by omega)]
  by_cases h224 : b.toNat = 224
  · exact ⟨160, 191, by rw [if_pos h224], hlong h224, hc.2⟩
  rw [if_neg h224]
  by_cases h237 : b.toNat = 237
  · exact ⟨128, 159, by rw [if_pos h237], hc.1, hpair h237⟩
  rw [if_neg h237]
  exact ⟨128, 191, by rw [if_pos (by omega)], hc⟩

/-- Of four bytes the second is bounded where the character would fit three bytes or would lie
beyond the last one. -/
theorem leadByte_four {b c : UInt8} (hb : 240 ≤ b.toNat ∧ b.toNat ≤ 244)
    (hc : 128 ≤ c.toNat ∧ c.toNat ≤ 191) (hlong : b.toNat = 240 → 144 ≤ c.toNat)
    (hlast : b.toNat = 244 → c.toNat ≤ 143) :
    ∃ low high, leadByte b = some (4, low, high) ∧ low ≤ c ∧ c ≤ high := by
  simp only [leadByte, UInt8.le_iff_toNat_le, Bool.and_eq_true, decide_eq_true_eq, beq_iff_eq,
    ← UInt8.toNat_inj, UInt8.reduceToNat]
  rw [if_neg (by omega), if_neg (by omega), if_neg (by omega), if_neg (by omega)]
  by_cases h240 : b.toNat = 240
  · exact ⟨144, 191, by rw [if_pos h240], hlong h240, hc.2⟩
  rw [if_neg h240]
  by_cases h244 : b.toNat = 244
  · exact ⟨128, 143, by rw [if_pos h244], hc.1, hlast h244⟩
  rw [if_neg h244]
  exact ⟨128, 191, by rw [if_pos (by omega)], hc⟩

/-! ## Characters -/

/-- A byte below 128 is a character of its own. -/
theorem firstChar_one {b : UInt8} (h : b.toNat < 128) (rest : List UInt8) :
    firstChar b rest = (.ok (Char.ofNat b.toNat), 0) := by
  rw [firstChar, if_pos (UInt8.lt_iff_toNat_lt.mpr h)]

/-- A byte goes on with a character exactly if it is at least 128 and below 192. -/
theorem isContinuation_iff {b : UInt8} :
    isContinuation b = true ↔ 128 ≤ b.toNat ∧ b.toNat ≤ 191 := by
  simp [isContinuation, UInt8.le_iff_toNat_le]

private theorem not_lt_of_continues {b : UInt8} (h : 128 ≤ b.toNat) : ¬b < 0x80 :=
  fun hlt => Nat.not_lt.mpr h (UInt8.lt_iff_toNat_lt.mp hlt)

/-- A character of several bytes is read by the width that its first byte announces. -/
theorem firstChar_two {b c : UInt8} {rest : List UInt8} (hb : 194 ≤ b.toNat ∧ b.toNat ≤ 223)
    (hc : 128 ≤ c.toNat ∧ c.toNat ≤ 191) :
    firstChar b (c :: rest) = (.ok (Char.ofNat (b.toNat % 32 * 64 + c.toNat % 64)), 1) := by
  have hbig : ¬b < 0x80 := not_lt_of_continues (by omega)
  simp [firstChar, hbig, leadByte_two hb, UInt8.le_iff_toNat_le, hc]

/-- Three bytes in their ranges are one character. -/
theorem firstChar_three {b c d : UInt8} {rest : List UInt8} {low high : UInt8}
    (hb : 128 ≤ b.toNat) (hlead : leadByte b = some (3, low, high)) (hc : low ≤ c ∧ c ≤ high)
    (hd : isContinuation d) :
    firstChar b (c :: d :: rest) =
      (.ok (Char.ofNat ((b.toNat % 16 * 64 + c.toNat % 64) * 64 + d.toNat % 64)), 2) := by
  have hbig : ¬b < 0x80 := not_lt_of_continues hb
  simp [firstChar, hbig, hlead, hc, hd]

/-- Four bytes in their ranges are one character. -/
theorem firstChar_four {b c d e : UInt8} {rest : List UInt8} {low high : UInt8}
    (hb : 128 ≤ b.toNat) (hlead : leadByte b = some (4, low, high)) (hc : low ≤ c ∧ c ≤ high)
    (hd : isContinuation d) (he : isContinuation e) :
    firstChar b (c :: d :: e :: rest) =
      (.ok (Char.ofNat (((b.toNat % 8 * 64 + c.toNat % 64) * 64 + d.toNat % 64) * 64 +
        e.toNat % 64)), 3) := by
  have hbig : ¬b < 0x80 := not_lt_of_continues hb
  simp [firstChar, hbig, hlead, hc, hd, he]

private theorem toNat_byte {n : Nat} (h : n < 256) : (UInt8.ofNat n).toNat = n :=
  UInt8.toNat_ofNat_of_lt' h

/-- A byte that continues a character carries six bits. -/
theorem toNat_continuing (n : Nat) : (UInt8.ofNat (n % 64 + 128)).toNat = n % 64 + 128 :=
  toNat_byte (by omega)

/-- A character is read from its bytes, whatever follows them. -/
theorem exists_firstChar (c : Char) : ∃ b more, String.utf8EncodeChar c = b :: more ∧
    ∀ rest, firstChar b (more ++ rest) = (.ok c, more.length) := by
  have hvalid : c.toNat < 55296 ∨ 57343 < c.toNat ∧ c.toNat < 1114112 := c.valid
  have hchar {n : Nat} (h : n = c.toNat) : Char.ofNat n = c := by rw [h, Char.ofNat_toNat]
  rw [String.utf8EncodeChar, show c.val.toNat = c.toNat from rfl]
  by_cases h1 : c.toNat ≤ 127
  · refine ⟨_, _, if_pos h1, fun rest => ?_⟩
    have hb : (UInt8.ofNat c.toNat).toNat = c.toNat := toNat_byte (by omega)
    rw [List.nil_append, firstChar_one (by omega), hb, Char.ofNat_toNat, List.length_nil]
  by_cases h2 : c.toNat ≤ 2047
  · refine ⟨_, _, (if_neg h1).trans (if_pos h2), fun rest => ?_⟩
    have hb : (UInt8.ofNat (c.toNat / 64 % 32 + 192)).toNat = _ := toNat_byte (by omega)
    have hc := toNat_continuing c.toNat
    rw [List.singleton_append, firstChar_two (by omega) (by omega), hb, hc, hchar (by omega),
      List.length_singleton]
  by_cases h3 : c.toNat ≤ 65535
  · refine ⟨_, _, (if_neg h1).trans ((if_neg h2).trans (if_pos h3)), fun rest => ?_⟩
    have hb : (UInt8.ofNat (c.toNat / 4096 % 16 + 224)).toNat = _ := toNat_byte (by omega)
    have hc := toNat_continuing (c.toNat / 64)
    have hd := toNat_continuing c.toNat
    obtain ⟨low, high, hlead, hsecond⟩ := leadByte_three (b := .ofNat (c.toNat / 4096 % 16 + 224))
      (c := .ofNat (c.toNat / 64 % 64 + 128)) (by omega) (by omega) (by omega) (by omega)
    have hthird : isContinuation (.ofNat (c.toNat % 64 + 128)) := isContinuation_iff.mpr (by omega)
    refine (firstChar_three (by omega) hlead hsecond hthird).trans ?_
    rw [hb, hc, hd, hchar (by omega)]
    rfl
  · refine ⟨_, _, (if_neg h1).trans ((if_neg h2).trans (if_neg h3)), fun rest => ?_⟩
    have hb : (UInt8.ofNat (c.toNat / 262144 % 8 + 240)).toNat = _ := toNat_byte (by omega)
    have hc := toNat_continuing (c.toNat / 4096)
    have hd := toNat_continuing (c.toNat / 64)
    have he := toNat_continuing c.toNat
    obtain ⟨low, high, hlead, hsecond⟩ := leadByte_four (b := .ofNat (c.toNat / 262144 % 8 + 240))
      (c := .ofNat (c.toNat / 4096 % 64 + 128)) (by omega) (by omega) (by omega) (by omega)
    have hthird : isContinuation (.ofNat (c.toNat / 64 % 64 + 128)) :=
      isContinuation_iff.mpr (by omega)
    have hfourth : isContinuation (.ofNat (c.toNat % 64 + 128)) :=
      isContinuation_iff.mpr (by omega)
    refine (firstChar_four (by omega) hlead hsecond hthird hfourth).trans ?_
    rw [hb, hc, hd, he, hchar (by omega)]
    rfl

/-! ## Texts -/

/-- The characters of a text are read one after another. -/
theorem readCharsWithin_utf8 {fuel : Nat} {cs : List Char}
    (hfuel : (cs.flatMap String.utf8EncodeChar).length ≤ fuel) :
    readCharsWithin fuel (cs.flatMap String.utf8EncodeChar) = cs.map .ok := by
  induction cs generalizing fuel with
  | nil => cases fuel <;> rfl
  | cons c cs ih =>
    obtain ⟨b, more, hbytes, hfirst⟩ := exists_firstChar c
    rw [List.flatMap_cons, hbytes, List.cons_append] at hfuel ⊢
    obtain ⟨fuel, rfl⟩ := Nat.exists_eq_add_one_of_ne_zero (Nat.ne_of_gt (Nat.zero_lt_of_lt hfuel))
    rw [List.length_cons, List.length_append] at hfuel
    simp only [readCharsWithin, hfirst, List.drop_left, List.map_cons]
    rw [ih (by omega)]

/-- Characters that are all whole make a text. -/
private theorem mapM_id_map_ok (cs : List Char) :
    (cs.map (.ok : Char → Except Utf8Fault Char)).mapM id = .ok cs := by
  induction cs with
  | nil => rfl
  | cons c cs ih =>
    rw [List.map_cons, List.mapM_cons, ih]
    rfl

/-- A text is read back from its bytes. -/
theorem ofUtf8_utf8 (s : String) : ofUtf8 (utf8 s) = .ok s := by
  rw [ofUtf8, utf8, readChars, readCharsWithin_utf8 (Nat.le_refl _), mapM_id_map_ok]
  exact congrArg Except.ok String.ofList_toList

end SqlAccess.Text
