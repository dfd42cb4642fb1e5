import SqlAccess.Proofs.Monitor.Scan

/-!
# Groups and strings behind WITH

A text is made of plain characters, of strings and of groups in parentheses, and a group holds such
a text again. Behind WITH the first group at the top level that a keyword follows decides on the
kind of the statement. A reader that enters a group or a string leaves it where it came in, with
nothing found inside, so what they hold has no influence.
-/

namespace SqlAccess.QueryKind

open Text (isBlank dropBlanks)

/-! ## The keyword that comes next -/

/-- A text that starts with a keyword, in any case, and whose first word ends with it. -/
def LedBy (keyword cs : List Char) : Prop :=
  ∃ word rest, cs = word ++ rest ∧ word.map Char.toUpper = keyword ∧
    ∀ c ∈ rest.head?, continuesWord c = false

/-- A text in which a keyword of a kind comes next, blanks aside. -/
def Announces (cs : List Char) (kind : QueryKind) : Prop :=
  ∃ blanks rest, cs = blanks ++ rest ∧ (∀ c ∈ blanks, isBlank c = true) ∧
    ∃ keyword, (keyword, kind) ∈ keywords ∧ LedBy keyword rest

/-- To start with a keyword is to be led by it. -/
theorem startsWith_iff_ledBy {keyword cs : List Char} :
    startsWith keyword cs = true ↔ LedBy keyword cs := by
  rw [startsWith, Bool.and_eq_true, beq_iff_eq, Bool.not_eq_true']
  constructor
  · rintro ⟨hword, hends⟩
    refine ⟨_, _, (List.take_append_drop keyword.length cs).symm, hword, ?_⟩
    intro c hc
    rw [Option.mem_def.mp hc] at hends
    exact hends
  · rintro ⟨word, rest, rfl, rfl, hends⟩
    rw [List.length_map, List.take_left, List.drop_left]
    refine ⟨rfl, ?_⟩
    cases rest with
    | nil => rfl
    | cons c rest => exact hends c rfl

/-- A text that starts with a keyword starts with a letter of the same name. -/
theorem head?_of_startsWith {keyword cs : List Char} (hne : keyword ≠ [])
    (h : startsWith keyword cs = true) : cs.head?.map Char.toUpper = keyword.head? := by
  obtain ⟨k, ks, rfl⟩ := List.exists_cons_of_ne_nil hne
  cases cs with
  | nil => cases h
  | cons c cs =>
    rw [startsWith_cons, Bool.and_eq_true, beq_iff_eq] at h
    exact congrArg some h.1

/-- A kind is found exactly if one of its keywords stands first. No keyword is missed behind another
one, since each has a first letter of its own. -/
theorem ofKeyword?_eq_some_iff {cs : List Char} {kind : QueryKind} :
    ofKeyword? cs = some kind ↔
      ∃ keyword, (keyword, kind) ∈ keywords ∧ startsWith keyword cs = true := by
  have hletter : ∀ k ∈ keywords, ∀ k' ∈ keywords, k.1.head? = k'.1.head? → k = k' := by decide
  rw [ofKeyword?, Option.map_eq_some_iff]
  constructor
  · rintro ⟨k, hfind, rfl⟩
    have hstarts : startsWith k.1 cs = true := by simpa using List.find?_some hfind
    exact ⟨k.1, List.mem_of_find?_eq_some hfind, hstarts⟩
  · rintro ⟨keyword, hmem, hstarts⟩
    have hsome : (keywords.find? fun k => startsWith k.1 cs).isSome = true :=
      List.find?_isSome.mpr ⟨_, hmem, hstarts⟩
    obtain ⟨k, hfind⟩ := Option.isSome_iff_exists.mp hsome
    have hk : k ∈ keywords := List.mem_of_find?_eq_some hfind
    have hkstarts : startsWith k.1 cs = true := by simpa using List.find?_some hfind
    have hheads : k.1.head? = keyword.head? :=
      (head?_of_startsWith (ne_nil_of_mem_keywords k hk) hkstarts).symm.trans
        (head?_of_startsWith (ne_nil_of_mem_keywords _ hmem) hstarts)
    exact ⟨k, hfind, congrArg Prod.snd (hletter k hk _ hmem hheads)⟩

/-- A keyword is no blank, so none of it is dropped. -/
theorem dropBlanks_of_startsWith {keyword cs : List Char} {kind : QueryKind}
    (hmem : (keyword, kind) ∈ keywords) (h : startsWith keyword cs = true) :
    dropBlanks cs = cs := by
  have hblank : ∀ k ∈ keywords, (k.1.head?.map isBlank).getD false = false := by decide
  have hhead := head?_of_startsWith (ne_nil_of_mem_keywords _ hmem) h
  cases cs with
  | nil => rfl
  | cons c cs =>
    apply List.dropWhile_cons_of_neg
    intro hc
    rw [List.head?_cons, Option.map_some, toUpper_of_isBlank hc] at hhead
    have hletter := hblank _ hmem
    rw [← hhead, Option.map_some, Option.getD_some, hc] at hletter
    cases hletter

/-- What is looked for behind a group is the keyword that comes next. -/
theorem ofKeyword?_dropBlanks_eq_some_iff {cs : List Char} {kind : QueryKind} :
    ofKeyword? (dropBlanks cs) = some kind ↔ Announces cs kind := by
  rw [ofKeyword?_eq_some_iff]
  constructor
  · rintro ⟨keyword, hmem, hstarts⟩
    refine ⟨cs.takeWhile isBlank, dropBlanks cs, List.takeWhile_append_dropWhile.symm, ?_, keyword,
      hmem, startsWith_iff_ledBy.mp hstarts⟩
    intro c hc
    exact List.mem_takeWhile_imp hc
  · rintro ⟨blanks, rest, rfl, hblanks, keyword, hmem, hled⟩
    have hstarts := startsWith_iff_ledBy.mpr hled
    have hrest : dropBlanks (blanks ++ rest) = rest := by
      rw [dropBlanks, List.dropWhile_append_of_pos hblanks]
      exact dropBlanks_of_startsWith hmem hstarts
    exact ⟨keyword, hmem, hrest.symm ▸ hstarts⟩

/-! ## The parts of a text -/

/-- What a string holds: a character that stands for itself, or any character behind a
backslash. -/
inductive StringUnit
  | plain (c : Char) (hquote : c ≠ '\'') (hbackslash : c ≠ '\\')
  | escaped (c : Char)

/-- The characters of a unit of a string. -/
def StringUnit.chars : StringUnit → List Char
  | .plain c _ _ => [c]
  | .escaped c => ['\\', c]

/-- A part of a text: a run of characters that are neither quotes nor parentheses, a string, or a
group in parentheses. -/
inductive Part
  | plain (run : List Char) (h : ∀ c ∈ run, IsPlain c)
  | string (units : List StringUnit)
  | group (inner : List Part)

mutual

/-- The characters of a part. -/
def Part.chars : Part → List Char
  | .plain run _ => run
  | .string units => '\'' :: (units.flatMap StringUnit.chars ++ ['\''])
  | .group inner => '(' :: (partsChars inner ++ [')'])

/-- The characters of parts one after another. -/
def partsChars : List Part → List Char
  | [] => []
  | p :: ps => p.chars ++ partsChars ps

end

namespace Part

/-- Whether a part is a group. -/
def isGroup : Part → Bool
  | .group _ => true
  | _ => false

/-- What is found behind a part at the top level, with the given text behind it: the kind of a
keyword, if the part is a group. -/
def found (p : Part) (rest : List Char) : Option QueryKind :=
  if p.isGroup then ofKeyword? (dropBlanks rest) else none

/-- A part without what it holds in quotes or parentheses. -/
def outline : Part → Part
  | .plain run h => .plain run h
  | .string _ => .string []
  | .group _ => .group []

end Part

instance (cs : List Char) (kind : QueryKind) : Decidable (Announces cs kind) :=
  decidable_of_iff _ ofKeyword?_dropBlanks_eq_some_iff

/-- The part at a position is a group, and a keyword of a kind comes next behind it. -/
def DecidesAt (ps : List Part) (i : Nat) (kind : QueryKind) : Prop :=
  ps[i]?.map Part.isGroup = some true ∧ Announces (partsChars (ps.drop (i + 1))) kind

instance (ps : List Part) (i : Nat) (kind : QueryKind) : Decidable (DecidesAt ps i kind) :=
  inferInstanceAs (Decidable (_ ∧ _))

/-- What is found behind the first part is what the group there decides. -/
private theorem found_eq_some_iff {p : Part} {ps : List Part} {kind : QueryKind} :
    p.found (partsChars ps) = some kind ↔ DecidesAt (p :: ps) 0 kind := by
  rw [DecidesAt, List.getElem?_cons_zero, Option.map_some, Option.some_inj, List.drop_succ_cons,
    List.drop_zero, ← ofKeyword?_dropBlanks_eq_some_iff, Part.found]
  cases p.isGroup <;> simp

/-- Nothing is found behind a first part that decides nothing. -/
private theorem found_eq_none {p : Part} {ps : List Part}
    (h : ∀ kind, ¬ DecidesAt (p :: ps) 0 kind) : p.found (partsChars ps) = none := by
  rw [Option.eq_none_iff_forall_ne_some]
  intro kind hkind
  exact h kind (found_eq_some_iff.mp hkind)

/-! ## The reader and the parts -/

namespace Reader

/-- A unit of a string leaves a reader inside the string. -/
theorem verdict_unit (depth : Int) (u : StringUnit) (rest : List Char) :
    (inString depth).verdict (u.chars ++ rest) = (inString depth).verdict rest := by
  cases u with
  | plain c hquote hbackslash =>
    have hstep : (inString depth).step c = inString depth := by
      rw [step, if_neg hquote, if_neg hbackslash]
    have hcons := verdict_inString_cons depth c rest
    rw [hstep] at hcons
    exact hcons
  | escaped c =>
    exact (verdict_inString_cons depth '\\' _).trans (verdict_escaped_cons depth c rest)

/-- A reader comes out of a string as it went in. -/
theorem verdict_string (depth : Int) (units : List StringUnit) (rest : List Char) :
    (outside depth).verdict ((Part.string units).chars ++ rest) = (outside depth).verdict rest := by
  have hunits : (inString depth).verdict (units.flatMap StringUnit.chars ++ '\'' :: rest) =
      (inString depth).verdict ('\'' :: rest) := by
    induction units with
    | nil => rfl
    | cons u units ih => rw [List.flatMap_cons, List.append_assoc, verdict_unit, ih]
  rw [Part.chars, List.cons_append, List.append_assoc, List.singleton_append, verdict,
    found_of_ne (by decide), Option.none_or]
  exact hunits.trans (verdict_inString_cons depth '\'' rest)

/-- Behind an opening parenthesis a reader is one level deeper. -/
theorem verdict_open (depth : Int) (rest : List Char) :
    (outside depth).verdict ('(' :: rest) = (outside (depth + 1)).verdict rest := by
  rw [verdict, found_of_ne (by decide), Option.none_or]
  rfl

/-- A parenthesis that closes an inner group shows no keyword. -/
theorem verdict_close_inner {depth : Int} (h : 0 < depth) (rest : List Char) :
    (outside (depth + 1)).verdict (')' :: rest) = (outside depth).verdict rest := by
  have hnone : (outside (depth + 1)).found ')' rest = none := by
    apply if_neg
    rintro ⟨hr, -⟩
    have := outside.inj hr
    omega
  rw [verdict, hnone, Option.none_or, step, if_neg (by decide), if_pos rfl, Int.add_sub_cancel]

mutual

/-- Inside a group no part shows a keyword, and the reader passes it at its depth. A group is
entered one level deeper, so none of its own groups closes at the top level. -/
theorem verdict_part : (p : Part) → {depth : Int} → 0 < depth → (rest : List Char) →
    (outside depth).verdict (p.chars ++ rest) = (outside depth).verdict rest
  | .plain run h, depth, _, rest => by
    rw [Part.chars]
    exact verdict_outside_of_isPlain h depth rest
  | .string units, depth, _, rest => verdict_string depth units rest
  | .group inner, depth, hdepth, rest => by
    rw [Part.chars, List.cons_append, List.append_assoc, List.singleton_append, verdict_open,
      verdict_parts inner (by omega), verdict_close_inner hdepth]

/-- Complete parts inside a group decide nothing and leave the depth as it is. -/
theorem verdict_parts : (ps : List Part) → {depth : Int} → 0 < depth → (rest : List Char) →
    (outside depth).verdict (partsChars ps ++ rest) = (outside depth).verdict rest
  | [], _, _, _ => by
    rw [partsChars, List.nil_append]
  | p :: ps, depth, hdepth, rest => by
    rw [partsChars, List.append_assoc, verdict_part p hdepth, verdict_parts ps hdepth]

end

/-- At the top level a part counts only if it is a group, and then for the keyword behind it, which
its own closing parenthesis shows. -/
theorem verdict_partsChars_cons (p : Part) (ps : List Part) :
    (outside 0).verdict (partsChars (p :: ps)) =
      (p.found (partsChars ps)).or ((outside 0).verdict (partsChars ps)) := by
  rw [partsChars]
  cases p with
  | plain run h =>
    rw [Part.chars]
    exact verdict_outside_of_isPlain h 0 (partsChars ps)
  | string units => exact verdict_string 0 units (partsChars ps)
  | group inner =>
    rw [Part.chars, List.cons_append, List.append_assoc, List.singleton_append, verdict_open,
      verdict_parts inner (by decide), Int.zero_add, verdict, found_close]
    rfl

/-- The first group that decides gives the verdict. -/
theorem verdict_of_decidesAt {ps : List Part} {i : Nat} {kind : QueryKind}
    (h : DecidesAt ps i kind) (hfirst : ∀ j < i, ∀ k, ¬ DecidesAt ps j k) :
    (outside 0).verdict (partsChars ps) = some kind := by
  induction ps generalizing i with
  | nil => cases h.1
  | cons p ps ih =>
    rw [verdict_partsChars_cons]
    cases i with
    | zero => rw [found_eq_some_iff.mpr h, Option.some_or]
    | succ i =>
      rw [found_eq_none (hfirst 0 (Nat.succ_pos i)), Option.none_or]
      exact ih h fun j hj => hfirst (j + 1) (Nat.succ_lt_succ hj)

/-- Where no group decides there is no verdict. -/
theorem verdict_of_undecided {ps : List Part} (h : ∀ i k, ¬ DecidesAt ps i k) :
    (outside 0).verdict (partsChars ps) = none := by
  induction ps with
  | nil => rfl
  | cons p ps ih =>
    rw [verdict_partsChars_cons, found_eq_none (h 0), Option.none_or]
    exact ih fun i => h (i + 1)

end Reader

/-! ## What groups and strings hold -/

/-- Parts and their outlines are written alike up to a quote or a parenthesis. -/
theorem partsChars_outline (ps : List Part) :
    partsChars (ps.map Part.outline) = partsChars ps ∨
      ∃ v s t t', (s = '(' ∨ s = '\'') ∧ partsChars ps = v ++ s :: t ∧
        partsChars (ps.map Part.outline) = v ++ s :: t' := by
  induction ps with
  | nil => exact .inl rfl
  | cons p ps ih =>
    rw [List.map_cons, partsChars, partsChars]
    cases p with
    | plain run h =>
      rw [Part.outline, Part.chars]
      rcases ih with ih | ⟨v, s, t, t', hs, hps, houtline⟩
      · exact .inl (by rw [ih])
      · refine .inr ⟨run ++ v, s, t, t', hs, ?_, ?_⟩
        · rw [hps, List.append_assoc]
        · rw [houtline, List.append_assoc]
    | string units =>
      rw [Part.outline, Part.chars, Part.chars]
      exact .inr ⟨[], '\'', _, _, .inr rfl, rfl, rfl⟩
    | group inner =>
      rw [Part.outline, Part.chars, Part.chars]
      exact .inr ⟨[], '(', _, _, .inl rfl, rfl, rfl⟩

/-- The outlines of parts start with the same keywords as the parts. -/
private theorem startsWith_outline {keyword : List Char}
    (hopen : '(' ∉ keyword) (hquote : '\'' ∉ keyword) (ps : List Part) :
    startsWith keyword (partsChars (ps.map Part.outline)) = startsWith keyword (partsChars ps) := by
  rcases partsChars_outline ps with h | ⟨v, s, t, t', rfl | rfl, hps, houtline⟩
  · rw [h]
  · rw [hps, houtline, startsWith_append_cons (s := '(') hopen v t t']
  · rw [hps, houtline, startsWith_append_cons (s := '\'') hquote v t t']

/-- The same keyword comes next in the outlines of parts. -/
theorem ofKeyword?_dropBlanks_outline (ps : List Part) :
    ofKeyword? (dropBlanks (partsChars (ps.map Part.outline))) =
      ofKeyword? (dropBlanks (partsChars ps)) := by
  rcases partsChars_outline ps with h | ⟨v, s, t, t', rfl | rfl, hps, houtline⟩
  · rw [h]
  · rw [hps, houtline]
    exact ofKeyword?_dropBlanks_append (s := '(') (by decide) fun _ h => absurd h (by decide)
  · rw [hps, houtline]
    exact ofKeyword?_dropBlanks_append (s := '\'') (by decide) fun _ h => absurd h (by decide)

/-- The verdict depends on the outlines only. -/
theorem verdict_outline (ps : List Part) :
    (Reader.outside 0).verdict (partsChars (ps.map Part.outline)) =
      (Reader.outside 0).verdict (partsChars ps) := by
  induction ps with
  | nil => rfl
  | cons p ps ih =>
    have hgroup : p.outline.isGroup = p.isGroup := by cases p <;> rfl
    rw [List.map_cons, Reader.verdict_partsChars_cons, Reader.verdict_partsChars_cons, Part.found,
      Part.found, hgroup, ofKeyword?_dropBlanks_outline, ih]

/-- In a statement that starts with WITH, the first group at the top level behind which a keyword
comes next decides on the kind, and without such a group the statement is a query. What stands in
groups and strings has no influence. -/
theorem first_announced_group_decides {sql : String} {ps : List Part}
    (hsql : sql.toList = partsChars ps) (hwith : LedBy "WITH".toList sql.toList) :
    (∀ i kind, DecidesAt ps i kind → (∀ j < i, ∀ k, ¬ DecidesAt ps j k) → ofSql sql = kind) ∧
    ((∀ i kind, ¬ DecidesAt ps i kind) → ofSql sql = .select) ∧
    ∀ (sql' : String) (ps' : List Part), sql'.toList = partsChars ps' →
      ps'.map Part.outline = ps.map Part.outline → ofSql sql' = ofSql sql := by
  have hstarts := startsWith_iff_ledBy.mpr hwith
  have hkind := ofSql_of_startsWith_with hstarts
  rw [hsql] at hkind hstarts
  refine ⟨?_, ?_, ?_⟩
  · intro i kind hdecides hfirst
    rw [hkind, Reader.verdict_of_decidesAt hdecides hfirst, Option.getD_some]
  · intro hundecided
    rw [hkind, Reader.verdict_of_undecided hundecided, Option.getD_none]
  · intro sql' ps' hsql' houtline
    have hstarts' : startsWith "WITH".toList sql'.toList = true := by
      rw [hsql', ← startsWith_outline (by decide) (by decide) ps', houtline,
        startsWith_outline (by decide) (by decide) ps, hstarts]
    rw [ofSql_of_startsWith_with hstarts', hsql', hkind, ← verdict_outline ps', houtline,
      verdict_outline ps]

/-- Two tables behind WITH, the first with a list of columns, and a replacement behind them. The
first table holds a string with a parenthesis, an escaped quote and a keyword, and a group behind
which a keyword comes next. -/
def twoTables : List Part :=
  [.plain "with a ".toList (isPlain_of_all (by decide +kernel)),
    .group [.plain "x".toList (isPlain_of_all (by decide +kernel))],
    .plain " as ".toList (isPlain_of_all (by decide +kernel)),
    .group [.string [.plain ')' (by decide) (by decide), .escaped '\''],
      .group [], .plain " delete ".toList (isPlain_of_all (by decide +kernel))],
    .plain ", updated AS ".toList (isPlain_of_all (by decide +kernel)),
    .group [], .plain "\n\tReplace INTO t".toList (isPlain_of_all (by decide +kernel))]

/-- The keyword behind the second table decides, and the same statement with empty tables is of the
same kind. -/
theorem twoTables_decided :
    "with a (x) as (')\\''() delete ), updated AS ()\n\tReplace INTO t".toList =
        partsChars twoTables ∧
      LedBy "WITH".toList
        "with a (x) as (')\\''() delete ), updated AS ()\n\tReplace INTO t".toList ∧
      DecidesAt twoTables 5 .insert ∧ (∀ j < 5, ∀ k, ¬ DecidesAt twoTables j k) ∧
      ofSql "with a (x) as (')\\''() delete ), updated AS ()\n\tReplace INTO t" = .insert ∧
      ofSql "with a () as (), updated AS ()\n\tReplace INTO t" = .insert := by
  have hsql : "with a (x) as (')\\''() delete ), updated AS ()\n\tReplace INTO t".toList =
      partsChars twoTables := by decide +kernel
  have hwith : LedBy "WITH".toList
      "with a (x) as (')\\''() delete ), updated AS ()\n\tReplace INTO t".toList :=
    startsWith_iff_ledBy.mp (by decide +kernel)
  have hdecides : DecidesAt twoTables 5 .insert := by decide +kernel
  have hfirst : ∀ j < 5, ∀ k, ¬ DecidesAt twoTables j k := by
    intro j hj k
    revert j
    cases k <;> decide +kernel
  obtain ⟨hkind, -, hsame⟩ := first_announced_group_decides hsql hwith
  have hinsert := hkind 5 .insert hdecides hfirst
  refine ⟨hsql, hwith, hdecides, hfirst, hinsert, ?_⟩
  have houtline : (twoTables.map Part.outline).map Part.outline = twoTables.map Part.outline := rfl
  rw [hsame _ _ (by decide +kernel) houtline, hinsert]

end SqlAccess.QueryKind
