import SqlAccess.Proofs.Monitor.LetterCase

/-!
# Noise in front of a statement

Blanks, comments and opening parentheses in front of a statement are noise: each is skipped as a
whole, in whatever order and number they come, and a comment that does not end takes all that is
left. They can also be stripped in rounds, each of which drops the blanks and then one comment or
one parenthesis. A round that goes on leaves a shorter text, so the rounds end, with what skipping
leaves.
-/

namespace SqlAccess.QueryKind

open Text (isBlank dropBlanks cutAt)

/-! ## Where a comment ends -/

/-- What stands behind the first end of a comment in a text. -/
def afterClose : List Char → Option (List Char)
  | '*' :: '/' :: cs => some cs
  | _ :: cs => afterClose cs
  | [] => none

/-- A line comment is skipped up to the end of the line. -/
theorem skipFrom_lineComment (cs : List Char) :
    skipFrom .lineComment cs = ((cutAt '\n' cs).2.map skipNoise).getD [] := by
  induction cs with
  | nil => rfl
  | cons c cs ih =>
    by_cases h : c = '\n'
    · rw [skipFrom, if_pos h, cutAt, if_pos h]
      rfl
    · rw [skipFrom, if_neg h, cutAt, if_neg h, ih]

/-- A comment in slashes and stars is skipped up to its first end. -/
theorem skipFrom_blockComment (cs : List Char) :
    skipFrom .blockComment cs = ((afterClose cs).map skipNoise).getD [] := by
  fun_induction afterClose cs with
  | case1 cs => rfl
  | case2 c cs h ih =>
    rw [skipFrom, ih]
    exact h
  | case3 => rfl

/-- A text is cut at the first such character. -/
theorem cutAt_append {c : Char} {body : List Char} (h : c ∉ body) (rest : List Char) :
    (cutAt c (body ++ c :: rest)).2 = some rest := by
  induction body with
  | nil => simp [cutAt]
  | cons d body ih =>
    obtain ⟨hd, hbody⟩ := List.ne_and_not_mem_of_not_mem_cons h
    rw [List.cons_append, cutAt, if_neg (Ne.symm hd)]
    exact ih hbody

/-- A text without such a character is not cut. -/
private theorem cutAt_eq_none {c : Char} {body : List Char} (h : c ∉ body) :
    (cutAt c body).2 = none := by
  induction body with
  | nil => rfl
  | cons d body ih =>
    obtain ⟨hd, hbody⟩ := List.ne_and_not_mem_of_not_mem_cons h
    rw [cutAt, if_neg (Ne.symm hd)]
    exact ih hbody

/-- What is left behind a cut is shorter. -/
theorem length_lt_of_cutAt {c : Char} {cs rest : List Char} (h : (cutAt c cs).2 = some rest) :
    rest.length < cs.length := by
  induction cs with
  | nil => cases h
  | cons d cs ih =>
    rw [cutAt] at h
    split at h
    · cases h
      exact Nat.lt_succ_self _
    · exact Nat.lt_succ_of_lt (ih h)

/-- The end of a comment does not overlap a body that holds none. -/
theorem afterClose_append {body : List Char} (h : ¬ ['*', '/'] <:+: body) (rest : List Char) :
    afterClose (body ++ '*' :: '/' :: rest) = some rest := by
  induction body with
  | nil => rfl
  | cons c body ih =>
    have hbody : ¬ ['*', '/'] <:+: body := fun hi => h (List.infix_cons hi)
    rw [List.cons_append, afterClose, ih hbody]
    intro cs hc hcs
    cases body with
    | nil => cases hcs
    | cons d body =>
      cases hcs
      subst hc
      exact h ⟨[], body, rfl⟩

/-- A comment that is not closed has nothing behind it. -/
private theorem afterClose_eq_none {body : List Char} (h : ¬ ['*', '/'] <:+: body) :
    afterClose body = none := by
  fun_induction afterClose body with
  | case1 cs => exact absurd ⟨[], cs, rfl⟩ h
  | case2 c cs _ ih => exact ih fun hi => h (List.infix_cons hi)
  | case3 => rfl

/-- What is left behind a comment is shorter. -/
theorem length_lt_of_afterClose {cs rest : List Char} (h : afterClose cs = some rest) :
    rest.length < cs.length := by
  fun_induction afterClose cs with
  | case1 cs =>
    cases h
    simp only [List.length_cons]
    omega
  | case2 c cs _ ih => exact Nat.lt_succ_of_lt (ih h)
  | case3 => cases h

/-! ## Noise -/

/-- A comment up to its end: the rest of a line, or what stands in slashes and stars. -/
inductive Comment
  | line (body : List Char) (h : '\n' ∉ body)
  | block (body : List Char) (h : ¬ ['*', '/'] <:+: body)

namespace Comment

/-- The characters of a comment without its end. -/
def opened : Comment → List Char
  | .line body _ => '-' :: '-' :: body
  | .block body _ => '/' :: '*' :: body

/-- What ends a comment. -/
def ending : Comment → List Char
  | .line _ _ => ['\n']
  | .block _ _ => ['*', '/']

end Comment

/-- What may stand in front of a statement: a blank, an opening parenthesis, or a comment. -/
inductive Noise
  | blank (c : Char) (h : isBlank c = true)
  | opening
  | comment (c : Comment)

/-- The characters of a piece of noise. -/
def Noise.chars : Noise → List Char
  | .blank c _ => [c]
  | .opening => ['(']
  | .comment c => c.opened ++ c.ending

/-- Pieces of noise one after another. -/
def noiseChars (noise : List Noise) : List Char := noise.flatMap Noise.chars

/-- A comment to the end of the line is skipped. -/
theorem skipNoise_line (cs : List Char) :
    skipNoise ('-' :: '-' :: cs) = ((cutAt '\n' cs).2.map skipNoise).getD [] :=
  skipFrom_lineComment cs

/-- A comment up to its close is skipped. -/
theorem skipNoise_block (cs : List Char) :
    skipNoise ('/' :: '*' :: cs) = ((afterClose cs).map skipNoise).getD [] :=
  skipFrom_blockComment cs

/-- A parenthesis that opens is skipped. -/
theorem skipNoise_open (cs : List Char) : skipNoise ('(' :: cs) = skipNoise cs := rfl

/-- A blank is skipped. -/
theorem skipNoise_blank {c : Char} (h : isBlank c = true) (cs : List Char) :
    skipNoise (c :: cs) = skipNoise cs := by
  have hskipped : (decide (c = '(') || isBlank c) = true := by rw [h, Bool.or_true]
  have hne : ∀ d, isBlank d = false → c ≠ d := by
    rintro d hd rfl
    rw [h] at hd
    cases hd
  rw [skipNoise, skipFrom, if_pos hskipped]
  · rfl
  · exact fun _ hc _ => hne '-' (by decide) hc
  · exact fun _ hc _ => hne '/' (by decide) hc

/-- A comment that ends is skipped. -/
theorem skipNoise_comment (c : Comment) (rest : List Char) :
    skipNoise (c.opened ++ (c.ending ++ rest)) = skipNoise rest := by
  cases c with
  | line body h =>
    change skipNoise ('-' :: '-' :: (body ++ '\n' :: rest)) = _
    rw [skipNoise_line, cutAt_append h]
    rfl
  | block body h =>
    change skipNoise ('/' :: '*' :: (body ++ '*' :: '/' :: rest)) = _
    rw [skipNoise_block, afterClose_append h]
    rfl

/-- Nothing is left of a comment that is never closed. -/
theorem skipNoise_opened (c : Comment) : skipNoise c.opened = [] := by
  cases c with
  | line body h =>
    rw [Comment.opened, skipNoise_line, cutAt_eq_none h]
    rfl
  | block body h =>
    rw [Comment.opened, skipNoise_block, afterClose_eq_none h]
    rfl

/-- Noise is skipped, whatever stands behind it. -/
theorem skipNoise_append (noise : List Noise) (rest : List Char) :
    skipNoise (noiseChars noise ++ rest) = skipNoise rest := by
  induction noise with
  | nil => rfl
  | cons n noise ih =>
    rw [← ih, noiseChars, List.flatMap_cons, List.append_assoc]
    cases n with
    | blank c h => exact skipNoise_blank h _
    | opening => exact skipNoise_open _
    | comment c =>
      rw [Noise.chars, List.append_assoc]
      exact skipNoise_comment c _

/-! ## Noise stripped in rounds -/

/-- What a round of stripping comes to: there is another round on what is left, or there is not. -/
inductive Round
  | again (rest : List Char)
  | stop (rest : List Char)

/-- A round of stripping: the blanks, then one comment or one parenthesis. It is the last one if it
strips nothing, or if a comment does not end. -/
def stripRound (cs : List Char) : Round :=
  match dropBlanks cs with
  | '-' :: '-' :: rest => ((cutAt '\n' rest).2.map .again).getD (.stop [])
  | '/' :: '*' :: rest => ((afterClose rest).map .again).getD (.stop [])
  | '(' :: rest => .again rest
  | rest => if rest = cs then .stop rest else .again rest

/-- What is left after the last round, if the rounds end within the given number. -/
def stripRounds : Nat → List Char → Option (List Char)
  | 0, _ => none
  | n + 1, cs =>
    match stripRound cs with
    | .again rest => stripRounds n rest
    | .stop rest => some rest

/-- Whether blanks are dropped before does not matter. -/
theorem skipNoise_dropBlanks (cs : List Char) : skipNoise (dropBlanks cs) = skipNoise cs := by
  induction cs with
  | nil => rfl
  | cons c cs ih =>
    cases h : isBlank c with
    | false => rw [dropBlanks, List.dropWhile_cons_of_neg (by simp [h])]
    | true =>
      rw [skipNoise_blank h, ← ih]
      exact congrArg skipNoise (List.dropWhile_cons_of_pos h)

/-- A text that does not start with noise is skipped to at once. -/
theorem skipNoise_eq_self {cs : List Char} (hline : ∀ rest, cs = '-' :: '-' :: rest → False)
    (hblock : ∀ rest, cs = '/' :: '*' :: rest → False) (hopen : ∀ rest, cs = '(' :: rest → False)
    (hblank : dropBlanks cs = cs) : skipNoise cs = cs := by
  cases cs with
  | nil => rfl
  | cons c cs =>
    have hc : isBlank c = false := by
      rw [← Bool.not_eq_true]
      intro hc
      have hlength := congrArg List.length hblank
      rw [dropBlanks, List.dropWhile_cons_of_pos hc, List.length_cons] at hlength
      have hle := (List.dropWhile_suffix isBlank (l := cs)).length_le
      omega
    have hskipped : (decide (c = '(') || isBlank c) = false := by
      rw [hc, Bool.or_false, decide_eq_false_iff_not]
      rintro rfl
      exact hopen cs rfl
    rw [skipNoise, skipFrom, hskipped]
    · rfl
    · rintro rest rfl rfl
      exact hline rest rfl
    · rintro rest rfl rfl
      exact hblock rest rfl

/-- What a round comes to on a text: a shorter text from which the same is left in the end, or what
is left in the end. -/
inductive Strips (cs : List Char) : Round → Prop
  | again {rest : List Char} (hlength : rest.length < cs.length)
      (hrest : skipNoise rest = skipNoise cs) : Strips cs (.again rest)
  | stop {rest : List Char} (hrest : rest = skipNoise cs) : Strips cs (.stop rest)

/-- A round strips something that does not matter, or stops at what is left. Blanks in front change
nothing, so the cases are those of what stands behind them: a line comment, a block comment, a
parenthesis, or the statement. -/
theorem strips_stripRound (cs : List Char) : Strips cs (stripRound cs) := by
  have hlength := (List.dropWhile_suffix isBlank (l := cs)).length_le
  have hskip := skipNoise_dropBlanks cs
  change (dropBlanks cs).length ≤ cs.length at hlength
  unfold stripRound
  split
  · rename_i text htext
    rw [htext] at hlength hskip
    rw [skipNoise_line] at hskip
    cases hcut : (cutAt '\n' text).2 with
    | none =>
      rw [hcut] at hskip
      exact .stop hskip
    | some rest =>
      rw [hcut] at hskip
      have hrest := length_lt_of_cutAt hcut
      simp only [List.length_cons] at hlength
      exact .again (by omega) hskip
  · rename_i text htext
    rw [htext] at hlength hskip
    rw [skipNoise_block] at hskip
    cases hclose : afterClose text with
    | none =>
      rw [hclose] at hskip
      exact .stop hskip
    | some rest =>
      rw [hclose] at hskip
      have hrest := length_lt_of_afterClose hclose
      simp only [List.length_cons] at hlength
      exact .again (by omega) hskip
  · rename_i text htext
    rw [htext] at hlength hskip
    exact .again hlength hskip
  · rename_i hline hblock hopen
    split
    · rename_i heq
      rw [heq] at hline hblock hopen
      exact .stop (heq.trans (skipNoise_eq_self hline hblock hopen heq).symm)
    · rename_i hne
      refine .again ?_ hskip
      rcases Nat.lt_or_eq_of_le hlength with h | h
      · exact h
      · exact absurd ((List.dropWhile_suffix isBlank).eq_of_length h) hne

/-- The rounds end, at the latest when there were more than the text has characters: every further
round is about a shorter text. -/
theorem stripRounds_eq {n : Nat} {cs : List Char} (h : cs.length < n) :
    stripRounds n cs = some (skipNoise cs) := by
  induction n generalizing cs with
  | zero => exact absurd h (Nat.not_lt_zero _)
  | succ n ih =>
    have hround := strips_stripRound cs
    rw [stripRounds]
    generalize stripRound cs = round at hround
    cases hround with
    | again hlength hrest => exact (ih (by omega)).trans (congrArg some hrest)
    | stop hrest => exact congrArg some hrest

/-- Nothing is found in a text that is skipped as a whole. -/
private theorem ofSql_of_skipNoise_eq_nil {sql : String} (h : skipNoise sql.toList = []) :
    ofSql sql = .other := by
  rw [ofSql, h]
  rfl

/-- Noise in front of a statement and the case of its letters do not change its kind. Behind
noise, a comment that does not end leaves no statement. The rounds that strip noise end on every
text, with what is read as the statement. -/
theorem noise_and_case_do_not_matter :
    (∀ (noise : List Noise) (sql : String),
      ofSql (String.ofList (noiseChars noise) ++ sql) = ofSql sql) ∧
    (∀ sql, ofSql (Text.asciiUpper sql) = ofSql (Text.asciiLower sql)) ∧
    (∀ (noise : List Noise) (c : Comment),
      ofSql (String.ofList (noiseChars noise ++ c.opened)) = .other) ∧
    ∀ cs, stripRounds (cs.length + 1) cs = some (skipNoise cs) := by
  refine ⟨?_, ?_, ?_, ?_⟩
  · intro noise sql
    have hskip : skipNoise (String.ofList (noiseChars noise) ++ sql).toList =
        skipNoise sql.toList := by
      rw [String.toList_append, String.toList_ofList, skipNoise_append]
    rw [ofSql, ofSql, hskip]
  · intro sql
    exact (ofSql_asciiLower sql).symm
  · intro noise c
    apply ofSql_of_skipNoise_eq_nil
    rw [String.toList_ofList, skipNoise_append, skipNoise_opened]
  · intro cs
    exact stripRounds_eq (Nat.lt_succ_self _)

end SqlAccess.QueryKind
