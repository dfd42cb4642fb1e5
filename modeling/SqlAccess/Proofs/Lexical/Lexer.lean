import Mathlib.Data.List.Infix
import SqlAccess.Dialect

/-!
# Reading literals

A statement is read from left to right as characters and quoted strings. A quote that stands
outside a string opens one. Inside, two quotes that stand together mean one quote, and a quote alone
closes the string; one dialect also lets a backslash take away the meaning of the character after
it, the other reads a backslash like any character. A text that ends inside a string has no reading.
-/

namespace SqlAccess

/-- One lexeme of a statement: a character outside strings, or a whole string. -/
inductive Lexeme
  | char (c : Char)
  | string (source value : List Char)
  deriving DecidableEq, Repr

/-- What a lexeme is written as. -/
def Lexeme.source : Lexeme → List Char
  | .char c => [c]
  | .string source _ => source

/-- The rest of a string whose opening quote has been read, and the text after it. -/
structure Quoted where
  source : List Char
  value : List Char
  rest : List Char
  deriving DecidableEq, Repr

/-- A string that is read on one character earlier. -/
def Quoted.before (source : List Char) (c : Char) (q : Quoted) : Quoted :=
  { q with source := source ++ q.source, value := c :: q.value }

/-- What a character means behind a backslash. -/
def unescaped (c : Char) : Char := if c = '0' then Char.ofNat 0 else c

namespace Dialect

/-- Reads a string whose opening quote has been read, up to its closing quote. -/
def readString (d : Dialect) : List Char → Option Quoted
  | [] => none
  | [c] => if c = '\'' then some ⟨[c], [], []⟩ else none
  | c :: e :: rest =>
    if c = '\'' then
      if e = '\'' then (d.readString rest).map (Quoted.before [c, e] c)
      else some ⟨[c], [], e :: rest⟩
    else if c = '\\' ∧ d = .mysql then (d.readString rest).map (Quoted.before [c, e] (unescaped e))
    else (d.readString (e :: rest)).map (Quoted.before [c] c)

/-- Reads the first lexeme of a text from outside a string. -/
def nextLexeme (d : Dialect) : List Char → Option (Lexeme × List Char)
  | [] => none
  | c :: cs =>
    if c = '\'' then
      (d.readString cs).map fun q => (.string (c :: q.source) q.value, q.rest)
    else some (.char c, cs)

/-- A string and what follows it are the text that was read. -/
theorem source_append_rest {d : Dialect} {cs : List Char} {q : Quoted}
    (h : d.readString cs = some q) : q.source ++ q.rest = cs := by
  induction cs using readString.induct d generalizing q with
  | case1 => cases h
  | case2 => cases h; rfl
  | case3 c hc =>
    rw [readString, if_neg hc] at h
    cases h
  | case4 rest ih =>
    obtain ⟨p, hp, rfl⟩ := Option.map_eq_some_iff.mp h
    simp only [Quoted.before, List.cons_append, List.nil_append, ih hp]
  | case5 e rest he =>
    rw [readString, if_pos rfl, if_neg he] at h
    cases h
    rfl
  | case6 c e rest hc hb ih =>
    rw [readString, if_neg hc, if_pos hb] at h
    obtain ⟨p, hp, rfl⟩ := Option.map_eq_some_iff.mp h
    simp only [Quoted.before, List.cons_append, List.nil_append, ih hp]
  | case7 c e rest hc hb ih =>
    rw [readString, if_neg hc, if_neg hb] at h
    obtain ⟨p, hp, rfl⟩ := Option.map_eq_some_iff.mp h
    simp only [Quoted.before, List.cons_append, List.nil_append, ih hp]

/-- The first lexeme is a character that is no quote, or a string that is read to its end. -/
theorem nextLexeme_cases {d : Dialect} {cs rest : List Char} {l : Lexeme}
    (h : d.nextLexeme cs = some (l, rest)) :
    (∃ c, c ≠ '\'' ∧ cs = c :: rest ∧ l = .char c) ∨
      ∃ tail q, cs = '\'' :: tail ∧ d.readString tail = some q ∧
        l = .string ('\'' :: q.source) q.value ∧ rest = q.rest := by
  cases cs with
  | nil => cases h
  | cons c cs =>
    rw [nextLexeme] at h
    by_cases hc : c = '\''
    · rw [if_pos hc] at h
      obtain ⟨q, hq, he⟩ := Option.map_eq_some_iff.mp h
      cases he
      exact .inr ⟨cs, q, by rw [hc], hq, by rw [hc], rfl⟩
    · rw [if_neg hc] at h
      cases h
      exact .inl ⟨c, hc, rfl, rfl⟩

/-- A lexeme and what follows it are the text that was read. -/
private theorem source_append_of_nextLexeme {d : Dialect} {cs rest : List Char} {l : Lexeme}
    (h : d.nextLexeme cs = some (l, rest)) : l.source ++ rest = cs := by
  rcases nextLexeme_cases h with ⟨c, -, rfl, rfl⟩ | ⟨tail, q, rfl, hq, rfl, rfl⟩
  · rfl
  · rw [Lexeme.source, List.cons_append, source_append_rest hq]

/-- No lexeme is empty. -/
theorem length_lt_of_nextLexeme {d : Dialect} {cs rest : List Char} {l : Lexeme}
    (h : d.nextLexeme cs = some (l, rest)) : rest.length < cs.length := by
  have hl : 0 < l.source.length := by
    rcases nextLexeme_cases h with ⟨c, -, -, rfl⟩ | ⟨tail, q, -, -, rfl, -⟩ <;>
      exact Nat.succ_pos _
  have hs := congrArg List.length (source_append_of_nextLexeme h)
  rw [List.length_append] at hs
  omega

/-- The lexemes of a text, if the text ends outside strings. -/
def lex (d : Dialect) (cs : List Char) : Option (List Lexeme) :=
  if cs = [] then some []
  else
    match _h : d.nextLexeme cs with
    | none => none
    | some (l, rest) => (d.lex rest).map (l :: ·)
termination_by cs.length
decreasing_by exact length_lt_of_nextLexeme _h

/-- The empty text has no lexemes. -/
theorem lex_nil (d : Dialect) : d.lex [] = some [] := by
  rw [lex, if_pos rfl]

/-- The first lexeme is read first. -/
theorem lex_of_nextLexeme {d : Dialect} {cs rest : List Char} {l : Lexeme}
    (h : d.nextLexeme cs = some (l, rest)) : d.lex cs = (d.lex rest).map (l :: ·) := by
  have hne : cs ≠ [] := by
    rintro rfl
    cases h
  rw [lex, if_neg hne]
  split
  · next hn => rw [h] at hn; cases hn
  · next hn => rw [h] at hn; cases hn; rfl

/-- A character that is no quote is read alone. -/
theorem lex_cons {d : Dialect} {c : Char} (hc : c ≠ '\'') (cs : List Char) :
    d.lex (c :: cs) = (d.lex cs).map (.char c :: ·) := by
  apply lex_of_nextLexeme
  rw [nextLexeme, if_neg hc]

/-- The lexemes of a text are all of it. -/
theorem flatMap_source_of_lex {d : Dialect} {cs : List Char} {ls : List Lexeme}
    (h : d.lex cs = some ls) : ls.flatMap Lexeme.source = cs := by
  induction cs using lex.induct d generalizing ls with
  | case1 =>
    rw [lex_nil] at h
    cases h
    rfl
  | case2 cs hne hn =>
    rw [lex, if_neg hne] at h
    split at h
    · cases h
    · next hs => rw [hn] at hs; cases hs
  | case3 cs hne l rest hn ih =>
    rw [lex_of_nextLexeme hn] at h
    obtain ⟨ms, hms, rfl⟩ := Option.map_eq_some_iff.mp h
    rw [List.flatMap_cons, ih hms, source_append_of_nextLexeme hn]

/-- A text has lexemes of its own, whatever follows it, unless that is a quote. -/
def Reads (d : Dialect) (cs : List Char) (ls : List Lexeme) : Prop :=
  ∀ rest, rest.head? ≠ some '\'' → d.lex (cs ++ rest) = (d.lex rest).map (ls ++ ·)

/-- The lexemes that a text has wherever it stands are those it has alone. -/
theorem Reads.lex_eq {d : Dialect} {cs : List Char} {ls : List Lexeme} (h : d.Reads cs ls) :
    d.lex cs = some ls := by
  have hr := h [] nofun
  rw [List.append_nil, lex_nil, Option.map_some, List.append_nil] at hr
  exact hr

/-- The empty text adds nothing. -/
theorem reads_nil (d : Dialect) : d.Reads [] [] := by
  intro rest _
  rw [List.nil_append]
  cases d.lex rest <;> rfl

/-- A character that is no quote can stand before any text. -/
theorem Reads.cons {d : Dialect} {c : Char} {cs : List Char} {ls : List Lexeme} (hc : c ≠ '\'')
    (h : d.Reads cs ls) : d.Reads (c :: cs) (.char c :: ls) := by
  intro rest hr
  rw [List.cons_append, lex_cons hc, h rest hr, Option.map_map]
  rfl

/-- A text that starts with no quote can follow any text. -/
theorem Reads.append {d : Dialect} {cs es : List Char} {ls ms : List Lexeme} (h : d.Reads cs ls)
    (he : d.Reads es ms) (hhead : es.head? ≠ some '\'') : d.Reads (cs ++ es) (ls ++ ms) := by
  intro rest hr
  have hahead : (es ++ rest).head? ≠ some '\'' := by
    cases es with
    | nil => exact hr
    | cons e es => exact hhead
  rw [List.append_assoc, h _ hahead, he rest hr, Option.map_map]
  congr 1
  funext ns
  exact (List.append_assoc ls ms ns).symm

/-- A text without quotes can stand before any text. -/
theorem Reads.map_char_append {d : Dialect} {cs es : List Char} {ls : List Lexeme}
    (hq : '\'' ∉ cs) (h : d.Reads es ls) : d.Reads (cs ++ es) (cs.map .char ++ ls) := by
  induction cs with
  | nil => exact h
  | cons c cs ih =>
    have hc : c ≠ '\'' := fun he => hq (he ▸ List.mem_cons_self)
    have hcs : '\'' ∉ cs := fun hm => hq (List.mem_cons_of_mem c hm)
    exact (ih hcs).cons hc

/-- A text without quotes is read character by character. -/
theorem reads_map_char (d : Dialect) {cs : List Char} (hq : '\'' ∉ cs) :
    d.Reads cs (cs.map .char) := by
  have h := d.reads_nil.map_char_append hq
  rwa [List.append_nil, List.append_nil] at h

/-- Where a backslash escapes, it is read with the character after it. -/
theorem readString_backslash (e : Char) (rest : List Char) :
    readString .mysql ('\\' :: e :: rest) =
      (readString .mysql rest).map (Quoted.before ['\\', e] (unescaped e)) := by
  rw [readString, if_neg (by decide), if_pos ⟨rfl, rfl⟩]

/-- A character without a meaning of its own is read alone, unless the text ends there. -/
private theorem readString_cons {d : Dialect} {c : Char} {rest : List Char} (hc : c ≠ '\'')
    (hb : ¬ (c = '\\' ∧ d = .mysql)) (hr : rest ≠ []) :
    d.readString (c :: rest) = (d.readString rest).map (Quoted.before [c] c) := by
  obtain ⟨e, rest, rfl⟩ := List.exists_cons_of_ne_nil hr
  rw [readString, if_neg hc, if_neg hb]

/-- What an escaped character means is the character. -/
theorem readString_escapeChar (d : Dialect) (c : Char) {rest : List Char} (hr : rest ≠ []) :
    d.readString (d.escapeChar c ++ rest) =
      (d.readString rest).map (Quoted.before (d.escapeChar c) c) := by
  cases d with
  | mysql =>
    by_cases hb : c = '\\'
    · subst hb
      exact readString_backslash _ rest
    by_cases hq : c = '\''
    · subst hq
      exact readString_backslash _ rest
    by_cases hn : c.toNat = 0
    · have hc : unescaped '0' = c := by rw [← Char.ofNat_toNat c, hn]; rfl
      rw [escapeChar, if_neg hb, if_neg hq, if_pos hn, ← hc]
      exact readString_backslash _ rest
    · rw [escapeChar, if_neg hb, if_neg hq, if_neg hn]
      exact readString_cons hq (fun h => hb h.1) hr
  | postgres =>
    by_cases hq : c = '\''
    · subst hq
      rfl
    · rw [escapeChar, if_neg hq]
      exact readString_cons hq nofun hr

/-- A text between its quotes is read back as it was, up to the closing quote. -/
theorem readString_escaped (d : Dialect) (cs : List Char) {rest : List Char}
    (hr : rest.head? ≠ some '\'') :
    d.readString (cs.flatMap d.escapeChar ++ '\'' :: rest) =
      some ⟨cs.flatMap d.escapeChar ++ ['\''], cs, rest⟩ := by
  induction cs with
  | nil =>
    cases rest with
    | nil => rfl
    | cons e rest =>
      have he : e ≠ '\'' := fun he => hr (congrArg some he)
      rw [List.flatMap_nil, List.nil_append, readString, if_pos rfl, if_neg he]
      rfl
  | cons c cs ih =>
    rw [List.flatMap_cons, List.append_assoc, readString_escapeChar d c (by simp), ih]
    simp only [Option.map_some, Quoted.before, List.append_assoc]

/-- The characters of a quoted text. -/
theorem toList_quote (d : Dialect) (s : String) :
    (d.quote s).toList = '\'' :: (s.toList.flatMap d.escapeChar ++ ['\'']) := by
  rw [quote, String.toList_ofList]
  rfl

/-- A quoted text is read as one string that means the text. -/
theorem nextLexeme_quote (d : Dialect) (s : String) {rest : List Char}
    (hr : rest.head? ≠ some '\'') :
    d.nextLexeme ((d.quote s).toList ++ rest) =
      some (.string (d.quote s).toList s.toList, rest) := by
  rw [toList_quote, List.cons_append, nextLexeme, if_pos rfl, List.append_assoc,
    List.singleton_append, readString_escaped d s.toList hr]
  rfl

/-- A quoted text is one lexeme. -/
theorem reads_quote (d : Dialect) (s : String) :
    d.Reads (d.quote s).toList [.string (d.quote s).toList s.toList] := by
  intro rest hr
  rw [lex_of_nextLexeme (d.nextLexeme_quote s hr)]
  rfl

end Dialect

end SqlAccess
