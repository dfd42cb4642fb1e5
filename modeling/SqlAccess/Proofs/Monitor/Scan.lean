import Mathlib.Data.List.TakeWhile
import SqlAccess.Monitor.QueryKind

/-!
# Reading on after WITH

The scan of a statement that starts with WITH is a reader with three ways to stand: outside of
strings, inside one, or behind a backslash inside one, each at a depth of parentheses. Where it
stands after a text follows from the characters one by one. Beside that it may find a keyword
behind a parenthesis that closes a group at the top level, and the first one found is the verdict.
A blank between two texts keeps what is found in the first from depending on the second, except
right behind such a parenthesis.
-/

namespace SqlAccess.QueryKind

open Text (isBlank dropBlanks)

/-! ## Keywords at the head of a text -/

/-- A keyword ends where no word goes on. -/
@[simp] theorem startsWith_nil_left (cs : List Char) :
    startsWith [] cs = !(cs.head?.map continuesWord).getD false := rfl

/-- No keyword stands in an empty text. -/
@[simp] theorem startsWith_nil_right (k : Char) (ks : List Char) :
    startsWith (k :: ks) [] = false := rfl

/-- A keyword is compared character by character, in upper case. -/
@[simp] theorem startsWith_cons (k : Char) (ks : List Char) (c : Char) (cs : List Char) :
    startsWith (k :: ks) (c :: cs) = (c.toUpper == k && startsWith ks cs) := by
  rw [startsWith, startsWith, List.length_cons, List.take_succ_cons, List.drop_succ_cons,
    List.map_cons, List.cons_beq_cons, Bool.and_assoc]

/-- Whether a character belongs to no keyword, so that a keyword ends in front of it. -/
def Separates (c : Char) : Prop := ∀ k ∈ keywords, c.toUpper ∉ k.1

instance (c : Char) : Decidable (Separates c) := inferInstanceAs (Decidable (∀ k ∈ _, _))

/-- A keyword in front of a character that is not its own is found whatever comes after that. -/
theorem startsWith_append_cons {keyword : List Char} {s : Char} (hs : s.toUpper ∉ keyword)
    (v t t' : List Char) :
    startsWith keyword (v ++ s :: t) = startsWith keyword (v ++ s :: t') := by
  induction v generalizing keyword with
  | nil =>
    cases keyword with
    | nil => rfl
    | cons k ks =>
      have hne : (s.toUpper == k) = false :=
        beq_eq_false_iff_ne.mpr fun h => hs (h ▸ List.mem_cons_self)
      simp only [List.nil_append, startsWith_cons, hne, Bool.false_and]
  | cons c v ih =>
    cases keyword with
    | nil => rfl
    | cons k ks =>
      simp only [List.cons_append, startsWith_cons]
      rw [ih fun h => hs (List.mem_cons_of_mem k h)]

/-- The keyword in front of a separating character does not depend on what comes after that. -/
theorem ofKeyword?_append_cons {s : Char} (hs : Separates s) (v t t' : List Char) :
    ofKeyword? (v ++ s :: t) = ofKeyword? (v ++ s :: t') := by
  have hfind : ∀ ks : List (List Char × QueryKind), (∀ k ∈ ks, s.toUpper ∉ k.1) →
      (ks.find? fun k => startsWith k.1 (v ++ s :: t)) =
        ks.find? fun k => startsWith k.1 (v ++ s :: t') := by
    intro ks hks
    induction ks with
    | nil => rfl
    | cons k ks ih =>
      rw [List.find?_cons, List.find?_cons, ih fun k' hk => hks k' (List.mem_cons_of_mem k hk),
        startsWith_append_cons (hks k List.mem_cons_self) v t t']
  rw [ofKeyword?, ofKeyword?, hfind keywords hs]

/-- No keyword is empty. -/
theorem ne_nil_of_mem_keywords : ∀ k ∈ keywords, k.1 ≠ [] := by decide

/-- A text that starts with a separating character starts with no keyword. -/
theorem ofKeyword?_cons_of_separates {s : Char} (hs : Separates s) (t : List Char) :
    ofKeyword? (s :: t) = none := by
  rw [ofKeyword?, Option.map_eq_none_iff, List.find?_eq_none]
  intro k hk
  obtain ⟨l, ls, hkeyword⟩ := List.exists_cons_of_ne_nil (ne_nil_of_mem_keywords k hk)
  have hl : (s.toUpper == l) = false :=
    beq_eq_false_iff_ne.mpr fun h => hs k hk (hkeyword ▸ h ▸ List.mem_cons_self)
  rw [hkeyword, startsWith_cons, hl, Bool.false_and]
  exact Bool.false_ne_true

/-- So does the keyword behind the blanks of a text, unless the text is blank throughout and the
separating character is blank too. -/
theorem ofKeyword?_dropBlanks_append {s : Char} (hs : Separates s) {v t t' : List Char}
    (h : v.all isBlank = true → isBlank s = true →
      ofKeyword? (dropBlanks t) = ofKeyword? (dropBlanks t')) :
    ofKeyword? (dropBlanks (v ++ s :: t)) = ofKeyword? (dropBlanks (v ++ s :: t')) := by
  rw [dropBlanks, dropBlanks, List.dropWhile_append, List.dropWhile_append]
  cases he : (v.dropWhile isBlank).isEmpty with
  | false => exact ofKeyword?_append_cons hs _ t t'
  | true =>
    have hall : v.all isBlank = true := by
      rw [List.isEmpty_iff, List.dropWhile_eq_nil_iff] at he
      exact List.all_eq_true.mpr he
    simp only [if_true]
    cases hblank : isBlank s with
    | false =>
      rw [List.dropWhile_cons_of_neg (by simp [hblank]),
        List.dropWhile_cons_of_neg (by simp [hblank])]
      exact ofKeyword?_append_cons hs [] t t'
    | true =>
      rw [List.dropWhile_cons_of_pos hblank, List.dropWhile_cons_of_pos hblank]
      exact h hall hblank

/-! ## Where the reader stands -/

/-- Whether a character is neither a parenthesis nor a quote. -/
def IsPlain (c : Char) : Prop := c ≠ '(' ∧ c ≠ ')' ∧ c ≠ '\''

instance (c : Char) : Decidable (IsPlain c) := inferInstanceAs (Decidable (_ ∧ _))

/-- A check of every character in turn; characters as a whole are too many to be decided on. -/
theorem isPlain_of_all {cs : List Char} (h : cs.all (fun c => decide (IsPlain c)) = true) :
    ∀ c ∈ cs, IsPlain c := by
  simpa only [List.all_eq_true, decide_eq_true_eq] using h

/-- Where a reader stands, at a depth of parentheses. -/
inductive Reader
  | outside (depth : Int)
  | inString (depth : Int)
  | escaped (depth : Int)
  deriving DecidableEq

namespace Reader

/-- Where a reader stands after one more character. -/
def step : Reader → Char → Reader
  | outside depth, c =>
    if c = '(' then outside (depth + 1)
    else if c = ')' then outside (depth - 1)
    else if c = '\'' then inString depth
    else outside depth
  | inString depth, c =>
    if c = '\'' then outside depth else if c = '\\' then escaped depth else inString depth
  | escaped depth, _ => inString depth

/-- Where a reader stands after a text. -/
def after (r : Reader) (cs : List Char) : Reader := cs.foldl step r

/-- A reader inside a string or outside. -/
def ofFlag (inString : Bool) (depth : Int) : Reader :=
  if inString then .inString depth else .outside depth

/-- What is found at a character with the given text behind it: the kind of a keyword, behind a
parenthesis that closes a group at the top level. -/
def found (r : Reader) (c : Char) (rest : List Char) : Option QueryKind :=
  if r = outside 1 ∧ c = ')' then ofKeyword? (dropBlanks rest) else none

/-- What is found first in a text, if anything is. -/
def verdict : Reader → List Char → Option QueryKind
  | _, [] => none
  | r, c :: cs => (r.found c cs).or (verdict (r.step c) cs)

/-- What is found first in a text that another text follows. -/
def verdictWithin : Reader → List Char → List Char → Option QueryKind
  | _, [], _ => none
  | r, c :: cs, rest => (r.found c (cs ++ rest)).or (verdictWithin (r.step c) cs rest)

/-- A reader that has read nothing is where it was. -/
@[simp] theorem after_nil (r : Reader) : r.after [] = r := rfl

/-- A reader takes one step for each character. -/
@[simp] theorem after_cons (r : Reader) (c : Char) (cs : List Char) :
    r.after (c :: cs) = (r.step c).after cs := rfl

/-- In a string a character decides nothing. -/
theorem verdict_inString_cons (depth : Int) (c : Char) (cs : List Char) :
    (ofFlag true depth).verdict (c :: cs) = ((inString depth).step c).verdict cs := by
  have hnone : (inString depth).found c cs = none := if_neg fun h => Reader.noConfusion h.1
  rw [ofFlag, if_pos rfl, verdict, hnone, Option.none_or]

/-- A character that is escaped decides nothing. -/
theorem verdict_escaped_cons (depth : Int) (c : Char) (cs : List Char) :
    (escaped depth).verdict (c :: cs) = (ofFlag true depth).verdict cs := by
  have hnone : (escaped depth).found c cs = none := if_neg fun h => Reader.noConfusion h.1
  rw [verdict, hnone, Option.none_or]
  rfl

/-- Outside of strings a character may decide, and else those behind it do. -/
theorem verdict_outside_cons (depth : Int) (c : Char) (cs : List Char) :
    (ofFlag false depth).verdict (c :: cs) =
      ((outside depth).found c cs).or (((outside depth).step c).verdict cs) := rfl

/-- The end of a top-level group decides by the keyword behind it. -/
theorem found_close (cs : List Char) :
    (outside 1).found ')' cs = ofKeyword? (dropBlanks cs) := if_pos ⟨rfl, rfl⟩

/-- Only a parenthesis that closes decides. -/
theorem found_of_ne {r : Reader} {c : Char} (hc : c ≠ ')') (rest : List Char) :
    r.found c rest = none := if_neg fun h => hc h.2

/-- A plain character leaves a reader outside where it is. -/
private theorem step_outside_of_isPlain {c : Char} (h : IsPlain c) (depth : Int) :
    (outside depth).step c = outside depth := by
  obtain ⟨hopen, hclose, hquote⟩ := h
  rw [step, if_neg hopen, if_neg hclose, if_neg hquote]

/-- Plain characters leave a reader outside where it is. -/
theorem after_outside_of_isPlain {cs : List Char} (h : ∀ c ∈ cs, IsPlain c) (depth : Int) :
    (outside depth).after cs = outside depth := by
  induction cs with
  | nil => rfl
  | cons c cs ih =>
    obtain ⟨hc, hcs⟩ := List.forall_mem_cons.mp h
    rw [after_cons, step_outside_of_isPlain hc, ih hcs]

/-- Plain characters have no part in the verdict. -/
theorem verdict_outside_of_isPlain {cs : List Char} (h : ∀ c ∈ cs, IsPlain c) (depth : Int)
    (rest : List Char) : (outside depth).verdict (cs ++ rest) = (outside depth).verdict rest := by
  induction cs with
  | nil => rfl
  | cons c cs ih =>
    obtain ⟨hc, hcs⟩ := List.forall_mem_cons.mp h
    rw [List.cons_append, verdict, found_of_ne hc.2.1, step_outside_of_isPlain hc, Option.none_or,
      ih hcs]

/-- A text before another one is read first. -/
theorem verdict_append (r : Reader) (cs rest : List Char) :
    r.verdict (cs ++ rest) = (r.verdictWithin cs rest).or ((r.after cs).verdict rest) := by
  induction cs generalizing r with
  | nil => rfl
  | cons c cs ih => rw [List.cons_append, verdict, verdictWithin, after_cons, ih, Option.or_assoc]

/-- Whether a text ends, blanks aside, with a parenthesis that closes a group at the top level. -/
def ClosesGroup (r : Reader) (cs : List Char) : Prop :=
  ∃ before blanks, cs = before ++ ')' :: blanks ∧ blanks.all isBlank = true ∧
    r.after before = outside 1

/-- A text that closes a group does so behind one more character, too. -/
theorem ClosesGroup.cons {r : Reader} {c : Char} {cs : List Char} (h : (r.step c).ClosesGroup cs) :
    r.ClosesGroup (c :: cs) := by
  obtain ⟨before, blanks, rfl, hblanks, hr⟩ := h
  exact ⟨c :: before, blanks, rfl, hblanks, hr⟩

/-- What is found in a text does not depend on what comes after a separating character, unless that
is a blank right behind a group and another keyword comes next. -/
theorem verdictWithin_congr {s : Char} (hs : Separates s) {r : Reader} {cs t t' : List Char}
    (h : isBlank s = true → r.ClosesGroup cs →
      ofKeyword? (dropBlanks t) = ofKeyword? (dropBlanks t')) :
    r.verdictWithin cs (s :: t) = r.verdictWithin cs (s :: t') := by
  induction cs generalizing r with
  | nil => rfl
  | cons c cs ih =>
    have hfound : r.found c (cs ++ s :: t) = r.found c (cs ++ s :: t') := by
      by_cases hclose : r = outside 1 ∧ c = ')'
      · rw [found, if_pos hclose, found, if_pos hclose]
        obtain ⟨rfl, rfl⟩ := hclose
        apply ofKeyword?_dropBlanks_append hs
        intro hall hblank
        exact h hblank ⟨[], cs, rfl, hall, rfl⟩
      · rw [found, if_neg hclose, found, if_neg hclose]
    rw [verdictWithin, verdictWithin, hfound, ih fun hblank hcloses => h hblank hcloses.cons]

end Reader

/-- The scan after WITH answers with the verdict of its reader, and without one for a query. -/
theorem afterWith_eq_verdict (inString : Bool) (depth : Int) (cs : List Char) :
    afterWith inString depth cs = ((Reader.ofFlag inString depth).verdict cs).getD .select := by
  fun_induction afterWith inString depth cs with
  | case1 => rfl
  | case2 depth cs ih =>
    rw [ih, Reader.verdict_inString_cons]
    rfl
  | case3 => rfl
  | case4 depth c cs h ih =>
    rw [ih, Reader.verdict_inString_cons, Reader.step, if_neg h, if_pos rfl,
      Reader.verdict_escaped_cons]
  | case5 depth c cs hquote hbackslash ih =>
    rw [ih, Reader.verdict_inString_cons, Reader.step, if_neg hquote, if_neg hbackslash]
    rfl
  | case6 inString depth cs h ih =>
    rw [Bool.not_eq_true] at h
    rw [ih, h, Reader.verdict_outside_cons, Reader.found_of_ne (by decide), Option.none_or]
    rfl
  | case7 inString cs h kind hkind _ =>
    rw [Bool.not_eq_true] at h
    rw [h, Reader.verdict_outside_cons, Reader.found_close, hkind]
    rfl
  | case8 inString cs h hnone _ ih =>
    rw [Bool.not_eq_true] at h
    rw [ih, h, Reader.verdict_outside_cons, Reader.found_close, hnone, Option.none_or]
    rfl
  | case9 inString depth cs h hdepth _ ih =>
    rw [Bool.not_eq_true] at h
    have hnone : (Reader.outside depth).found ')' cs = none :=
      if_neg fun hr => hdepth (Reader.outside.inj hr.1)
    rw [ih, h, Reader.verdict_outside_cons, hnone, Option.none_or]
    rfl
  | case10 inString depth c cs h hopen hclose ih =>
    rw [Bool.not_eq_true] at h
    rw [ih, h, Reader.verdict_outside_cons, Reader.found_of_ne hclose, Option.none_or, Reader.step,
      if_neg hopen, if_neg hclose]
    by_cases hquote : c = '\'' <;> simp [hquote, Reader.ofFlag]

/-- A blank has no other case. -/
theorem toUpper_of_isBlank {c : Char} (h : isBlank c = true) : c.toUpper = c := by
  unfold Char.toUpper
  rw [dif_neg]
  rintro ⟨hlow, hhigh⟩
  have hl : 97 ≤ c.toNat := hlow
  have hh : c.toNat ≤ 122 := hhigh
  simp only [isBlank, Bool.or_eq_true, Bool.and_eq_true, decide_eq_true_eq, beq_iff_eq] at h
  omega

/-- A text that starts with WITH has nothing in front of it to skip. -/
theorem skipNoise_of_startsWith_with {cs : List Char}
    (h : startsWith "WITH".toList cs = true) : skipNoise cs = cs := by
  cases cs with
  | nil => rfl
  | cons c cs =>
    have hc : c.toUpper = 'W' := by
      rw [show "WITH".toList = 'W' :: "ITH".toList from rfl, startsWith_cons, Bool.and_eq_true] at h
      exact beq_iff_eq.mp h.1
    have hne : ∀ d : Char, d.toUpper ≠ 'W' → c ≠ d := fun d hd he => hd (he ▸ hc)
    have hblank : isBlank c = false := by
      rw [← Bool.not_eq_true]
      intro hb
      rw [toUpper_of_isBlank hb] at hc
      subst hc
      cases hb
    have hopen : (c = '(' || isBlank c) = false := by
      rw [hblank, Bool.or_false, decide_eq_false_iff_not]
      exact hne '(' (by decide)
    rw [skipNoise, skipFrom, hopen]
    · rfl
    · exact fun _ he _ => hne '-' (by decide) he
    · exact fun _ he _ => hne '/' (by decide) he

/-- The kind of a statement that starts with WITH is the verdict on it, and without one a query. -/
theorem ofSql_of_startsWith_with {sql : String}
    (h : startsWith "WITH".toList sql.toList = true) :
    ofSql sql = ((Reader.outside 0).verdict sql.toList).getD .select := by
  rw [ofSql, skipNoise_of_startsWith_with h]
  simp only [h, if_true]
  exact afterWith_eq_verdict false 0 sql.toList

end SqlAccess.QueryKind
