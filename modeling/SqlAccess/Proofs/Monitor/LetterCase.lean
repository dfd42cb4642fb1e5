import Mathlib
import SqlAccess.Proofs.Monitor.Scan

/-!
# The case of letters

Only ASCII letters have two cases. None of them is a blank, a quote, a parenthesis or part of
a comment's ends, and keywords are compared in upper case, so every step of a reader goes the same
way on a text and on the text in upper case.
-/

namespace SqlAccess.QueryKind

open Text (isBlank dropBlanks)

/-! ## Characters in upper case -/

/-- The upper case of a character is the character itself or another letter. -/
theorem toUpper_cases (c : Char) :
    c.toUpper = c ∨ c.isAlpha = true ∧ c.toUpper.isAlpha = true := by
  by_cases h : c.isLower = true
  · have hc : c.isAlpha = true := by rw [Char.isAlpha, h, Bool.or_true]
    exact .inr ⟨hc, by rw [Char.isAlpha_toUpper_eq_isAlpha, hc]⟩
  · exact .inl (Char.toUpper_eq_of_not_isLower h)

/-- A character that is no letter is the upper case of itself only. -/
theorem toUpper_eq_iff {c d : Char} (hd : d.isAlpha = false) : c.toUpper = d ↔ c = d := by
  have hne : ∀ x : Char, x.isAlpha = true → x ≠ d := by
    rintro x hx rfl
    rw [hx] at hd
    cases hd
  rcases toUpper_cases c with h | ⟨hc, hupper⟩
  · rw [h]
  · exact iff_of_false (hne _ hupper) (hne c hc)

/-- No letter is a blank. -/
private theorem isBlank_of_isAlpha {c : Char} (h : c.isAlpha = true) : isBlank c = false := by
  simp only [Char.isAlpha, Char.isUpper, Char.isLower, Bool.or_eq_true, Bool.and_eq_true,
    decide_eq_true_eq, ge_iff_le, UInt32.le_iff_toNat_le] at h
  change (65 ≤ c.toNat ∧ c.toNat ≤ 90) ∨ (97 ≤ c.toNat ∧ c.toNat ≤ 122) at h
  simp only [isBlank, Bool.or_eq_false_iff, Bool.and_eq_false_iff, decide_eq_false_iff_not,
    beq_eq_false_iff_ne]
  omega

/-- Whether a character is blank does not depend on its case. -/
theorem isBlank_toUpper (c : Char) : isBlank c.toUpper = isBlank c := by
  rcases toUpper_cases c with h | ⟨hc, hupper⟩
  · rw [h]
  · rw [isBlank_of_isAlpha hc, isBlank_of_isAlpha hupper]

/-- Whether a character goes on with a word does not depend on its case. -/
private theorem continuesWord_toUpper (c : Char) : continuesWord c.toUpper = continuesWord c := by
  rcases toUpper_cases c with h | ⟨hc, hupper⟩
  · rw [h]
  · rw [continuesWord, continuesWord, Char.isAlphanum, Char.isAlphanum, hc, hupper, Bool.true_or]
    rfl

/-! ## Texts in upper case -/

/-- The same blanks are dropped in either case. -/
theorem dropBlanks_map_toUpper (cs : List Char) :
    dropBlanks (cs.map Char.toUpper) = (dropBlanks cs).map Char.toUpper := by
  have hblank : isBlank ∘ Char.toUpper = isBlank := funext isBlank_toUpper
  rw [dropBlanks, List.dropWhile_map, hblank]
  rfl

/-- A keyword is found in either case. -/
theorem startsWith_map_toUpper (keyword cs : List Char) :
    startsWith keyword (cs.map Char.toUpper) = startsWith keyword cs := by
  induction keyword generalizing cs with
  | nil =>
    cases cs with
    | nil => rfl
    | cons c cs => exact congrArg (!·) (continuesWord_toUpper c)
  | cons k ks ih =>
    cases cs with
    | nil => rfl
    | cons c cs =>
      rw [List.map_cons, startsWith_cons, startsWith_cons, Char.toUpper_toUpper_eq_toUpper, ih]

/-- The same kind is found in either case. -/
theorem ofKeyword?_map_toUpper (cs : List Char) :
    ofKeyword? (cs.map Char.toUpper) = ofKeyword? cs := by
  simp only [ofKeyword?, startsWith_map_toUpper]

/-- A text in upper case starts with two characters that are no letters only if the text does. -/
theorem not_starts_map_toUpper {d e c : Char} {cs : List Char}
    (hd : d.isAlpha = false) (he : e.isAlpha = false)
    (h : ∀ rest, c = d → cs = e :: rest → False) (rest : List Char) :
    c.toUpper = d → cs.map Char.toUpper = e :: rest → False := by
  intro hc hcs
  obtain ⟨x, xs, rfl, hx, -⟩ := List.map_eq_cons_iff.mp hcs
  exact h xs ((toUpper_eq_iff hd).mp hc) (congrArg (· :: xs) ((toUpper_eq_iff he).mp hx))

/-- What is skipped in front of a statement does not depend on the case of its letters. -/
theorem skipFrom_map_toUpper (place : Place) (cs : List Char) :
    skipFrom place (cs.map Char.toUpper) = (skipFrom place cs).map Char.toUpper := by
  fun_induction skipFrom place cs with
  | case1 => rfl
  | case2 cs ih => exact ih
  | case3 c cs h ih =>
    have hc : c.toUpper ≠ '\n' := fun he => h ((toUpper_eq_iff (by decide)).mp he)
    rw [List.map_cons, skipFrom, if_neg hc, ih]
  | case4 cs ih => exact ih
  | case5 => rfl
  | case6 c cs h ih =>
    rw [List.map_cons, skipFrom, ih]
    exact not_starts_map_toUpper (by decide) (by decide) h
  | case7 cs ih => exact ih
  | case8 cs ih => exact ih
  | case9 => rfl
  | case10 c cs hline hblock h ih =>
    rw [List.map_cons, skipFrom, isBlank_toUpper]
    · simp only [toUpper_eq_iff (d := '(') (by decide), if_pos h, ih]
    · exact not_starts_map_toUpper (by decide) (by decide) hline
    · exact not_starts_map_toUpper (by decide) (by decide) hblock
  | case11 c cs hline hblock h =>
    rw [List.map_cons, skipFrom, isBlank_toUpper]
    · simp only [toUpper_eq_iff (d := '(') (by decide), if_neg h]
    · exact not_starts_map_toUpper (by decide) (by decide) hline
    · exact not_starts_map_toUpper (by decide) (by decide) hblock

namespace Reader

/-- A reader takes the same step in either case. -/
theorem step_toUpper (r : Reader) (c : Char) : r.step c.toUpper = r.step c := by
  have hopen : c.toUpper = '(' ↔ c = '(' := toUpper_eq_iff (by decide)
  have hclose : c.toUpper = ')' ↔ c = ')' := toUpper_eq_iff (by decide)
  have hquote : c.toUpper = '\'' ↔ c = '\'' := toUpper_eq_iff (by decide)
  have hbackslash : c.toUpper = '\\' ↔ c = '\\' := toUpper_eq_iff (by decide)
  cases r <;> simp only [step, hopen, hclose, hquote, hbackslash]

/-- The verdict on a text does not depend on the case of its letters. -/
theorem verdict_map_toUpper (r : Reader) (cs : List Char) :
    r.verdict (cs.map Char.toUpper) = r.verdict cs := by
  induction cs generalizing r with
  | nil => rfl
  | cons c cs ih =>
    have hfound : r.found c.toUpper (cs.map Char.toUpper) = r.found c cs := by
      simp only [found, toUpper_eq_iff (d := ')') (by decide), dropBlanks_map_toUpper,
        ofKeyword?_map_toUpper]
    rw [List.map_cons, verdict, verdict, hfound, step_toUpper, ih]

end Reader

/-- The kind of a statement is that of the statement in upper case. -/
theorem ofSql_asciiUpper (sql : String) : ofSql (Text.asciiUpper sql) = ofSql sql := by
  simp only [ofSql, Text.asciiUpper, String.toList_ofList, skipNoise, skipFrom_map_toUpper,
    startsWith_map_toUpper, ofKeyword?_map_toUpper, afterWith_eq_verdict,
    Reader.verdict_map_toUpper]

/-- A statement in lower case and the statement in upper case are of one kind. -/
theorem ofSql_asciiLower (sql : String) :
    ofSql (Text.asciiLower sql) = ofSql (Text.asciiUpper sql) := by
  have hupper : Char.toUpper ∘ Char.toLower = Char.toUpper := funext Char.toUpper_toLower_eq_toUpper
  rw [← ofSql_asciiUpper (Text.asciiLower sql), Text.asciiUpper, Text.asciiUpper, Text.asciiLower,
    String.toList_ofList, List.map_map, hupper]

end SqlAccess.QueryKind
