import SqlAccess.Proofs.Lexical.Balance

/-!
# Literals stay in their place

The literal of any value is an item: unquoted numbers and words hold nothing that could
separate or end anything, everything else is quoted, and the literal of a list puts parentheses
around the literals of its items. Whatever a text holds, its quoted form is read back as one string
that means the text.
-/

namespace SqlAccess

/-- A text of one or more characters that belong to words and unsigned numbers. -/
structure Wordlike (cs : List Char) : Prop where
  ne_nil : cs ≠ []
  isWordChar : ∀ c ∈ cs, isWordChar c = true

/-- A character of a word can stand before it. -/
theorem Wordlike.cons {c : Char} {cs : List Char} (hc : SqlAccess.isWordChar c = true)
    (h : Wordlike cs) : Wordlike (c :: cs) :=
  ⟨List.cons_ne_nil c cs, List.forall_mem_cons.mpr ⟨hc, h.isWordChar⟩⟩

/-- A text is a word when each of its characters belongs to one. -/
theorem wordlike_of_all {cs : List Char} (hne : cs ≠ []) (h : cs.all isWordChar = true) :
    Wordlike cs :=
  ⟨hne, List.all_eq_true.mp h⟩

namespace Number

/-- Decimal digits are a number. -/
theorem wordlike_toDigits (n : Nat) : Wordlike (Nat.toDigits 10 n) where
  ne_nil := Nat.toDigits_ne_nil
  isWordChar := by
    intro c hc
    have hd := Nat.isDigit_of_mem_toDigits (by decide) (by decide) hc
    simp [isWordChar, Char.isAlphanum, hd]

/-- Zeros can stand in front of a number. -/
theorem wordlike_padded {digits : List Char} (h : Wordlike digits) (count : Nat) :
    Wordlike (List.replicate count '0' ++ digits) where
  ne_nil := List.append_ne_nil_of_right_ne_nil _ h.ne_nil
  isWordChar := by
    intro c hc
    rcases List.mem_append.mp hc with hc | hc
    · rw [List.eq_of_mem_replicate hc]
      decide
    · exact h.isWordChar c hc

/-- A point can stand within a number. -/
theorem wordlike_pointed {digits : List Char} (h : Wordlike digits) (whole : Nat) :
    Wordlike (digits.take whole ++ '.' :: digits.drop whole) where
  ne_nil := List.append_ne_nil_of_right_ne_nil _ (List.cons_ne_nil _ _)
  isWordChar := by
    intro c hc
    rcases List.mem_append.mp hc with hc | hc
    · exact h.isWordChar c (List.mem_of_mem_take hc)
    · rcases List.mem_cons.mp hc with rfl | hc
      · decide
      · exact h.isWordChar c (List.mem_of_mem_drop hc)

/-- The text of a decimal number without its sign is a number. -/
theorem wordlike_withPoint {digits : List Char} (h : Wordlike digits) (scale : Nat) :
    Wordlike (Decimal.withPoint digits scale) := by
  unfold Decimal.withPoint
  by_cases hs : scale = 0
  · rw [if_pos hs]
    exact h
  · rw [if_neg hs]
    exact wordlike_pointed (wordlike_padded h _) _

/-- Digits with a point and zeros where they are needed are a number. -/
theorem wordlike_positional (n : Decimals) : Wordlike n.positional.toList := by
  have hd := wordlike_toDigits n.digits
  unfold Decimals.positional
  dsimp only
  by_cases hp : 0 ≤ n.power
  · rw [if_pos hp, String.toList_ofList]
    refine ⟨List.append_ne_nil_of_left_ne_nil hd.ne_nil _, ?_⟩
    intro c hc
    rcases List.mem_append.mp hc with hc | hc
    · exact hd.isWordChar c hc
    · rw [List.eq_of_mem_replicate hc]
      decide
  · rw [if_neg hp]
    by_cases hs : (-n.power).toNat < (Nat.toDigits 10 n.digits).length
    · rw [if_pos hs, String.toList_ofList]
      exact wordlike_pointed hd _
    · rw [if_neg hs, String.toList_ofList]
      have hpadded := wordlike_padded hd ((-n.power).toNat - (Nat.toDigits 10 n.digits).length)
      exact (hpadded.cons (by decide)).cons (by decide)

/-- An integer is written with a minus sign or without. -/
theorem toString_int (n : Int) :
    toString n = (if n < 0 then "-" else "") ++ toString n.natAbs := by
  cases n with
  | ofNat n => rfl
  | negSucc n =>
    rw [if_pos (Int.negSucc_lt_zero n)]
    rfl

end Number

namespace Dialect

/-- The lexemes of a text that ends outside strings. -/
def lexemes (d : Dialect) (s : String) : List Lexeme := (d.lex s.toList).getD []

/-- A text is an item that is read the same wherever it stands. -/
structure Holds (d : Dialect) (s : String) : Prop where
  reads : d.Reads s.toList (d.lexemes s)
  item : Item (d.lexemes s)

/-- The lexemes that a text is read as are its lexemes. -/
theorem Reads.lexemes_eq {d : Dialect} {s : String} {ls : List Lexeme}
    (h : d.Reads s.toList ls) : d.lexemes s = ls := by
  rw [lexemes, h.lex_eq]
  rfl

/-- A text is an item when its lexemes are one. -/
theorem holds_of_reads {d : Dialect} {s : String} {ls : List Lexeme} (h : d.Reads s.toList ls)
    (hi : Item ls) : d.Holds s := by
  have he := h.lexemes_eq
  rw [← he] at h hi
  exact ⟨h, hi⟩

/-- Words and unsigned numbers are read character by character. -/
theorem reads_wordlike (d : Dialect) {cs : List Char} (h : Wordlike cs) :
    d.Reads cs (cs.map .char) :=
  d.reads_map_char fun hm => ne_of_isWordChar (h.isWordChar _ hm) rfl rfl

/-- The characters of words are words. -/
theorem isWord_of_mem_map_char {cs : List Char} (h : Wordlike cs) :
    ∀ l ∈ cs.map Lexeme.char, l.isWord = true := by
  intro l hl
  obtain ⟨c, hc, rfl⟩ := List.mem_map.mp hl
  exact h.isWordChar c hc

/-- Words and unsigned numbers are items. -/
theorem holds_wordlike (d : Dialect) {s : String} (h : Wordlike s.toList) : d.Holds s :=
  holds_of_reads (d.reads_wordlike h) (Item.of_words (isWord_of_mem_map_char h))

/-- Numbers are items, with a minus sign or without. -/
theorem holds_number (d : Dialect) (negative : Prop) [Decidable negative] {s : String}
    (h : Wordlike s.toList) : d.Holds ((if negative then "-" else "") ++ s) := by
  by_cases hn : negative
  · rw [if_pos hn]
    have hreads : d.Reads ("-" ++ s).toList (.char '-' :: s.toList.map .char) := by
      rw [String.toList_append]
      exact (d.reads_wordlike h).cons (by decide)
    have hne : s.toList.map Lexeme.char ≠ [] := fun he => h.ne_nil (List.map_eq_nil_iff.mp he)
    exact holds_of_reads hreads (Item.minus_of_words (isWord_of_mem_map_char h) hne)
  · rw [if_neg hn, String.empty_append]
    exact d.holds_wordlike h

/-- Integers are items. -/
theorem holds_int (d : Dialect) (n : Int) : d.Holds (toString n) := by
  rw [Number.toString_int]
  apply d.holds_number
  rw [Nat.toString_eq_repr, Nat.toList_repr]
  exact Number.wordlike_toDigits n.natAbs

/-- Quoted texts are items. -/
theorem holds_quote (d : Dialect) (s : String) : d.Holds (d.quote s) :=
  holds_of_reads (d.reads_quote s) (Item.of_words (by simp [Lexeme.isWord]))

/-- A floating-point number is a number or, when it is not finite, quoted. -/
theorem holds_floating (d : Dialect) (l : Number.Layout) (x : Number.Datum) :
    d.Holds (match x with
      | .finite .. => l.text Number.Decimals.positional x
      | _ => d.quote (l.text Number.Decimals.positional x)) := by
  cases x with
  | nan negative => exact d.holds_quote _
  | infinite negative => exact d.holds_quote _
  | finite negative mantissa power =>
    exact d.holds_number (negative = true) (Number.wordlike_positional (l.shortest mantissa power))

/-- Truth values are words. -/
theorem holds_boolLiteral (d : Dialect) (b : Bool) : d.Holds (d.boolLiteral b) := by
  apply d.holds_wordlike
  cases d <;> cases b <;> exact wordlike_of_all (by decide) (by decide)

/-- Words have nothing to escape. -/
theorem flatMap_escapeChar_of_wordlike (d : Dialect) {cs : List Char}
    (h : ∀ c ∈ cs, isWordChar c = true) : cs.flatMap d.escapeChar = cs := by
  induction cs with
  | nil => rfl
  | cons c cs ih =>
    have hc := h c List.mem_cons_self
    have hquote : c ≠ '\'' := ne_of_isWordChar hc rfl
    have hbackslash : c ≠ '\\' := ne_of_isWordChar hc rfl
    have hnul : c.toNat ≠ 0 := by
      intro he
      have hc0 : c = Char.ofNat 0 := by rw [← Char.ofNat_toNat c, he]
      exact ne_of_isWordChar hc rfl hc0
    have he : d.escapeChar c = [c] := by
      cases d with
      | mysql => rw [escapeChar, if_neg hbackslash, if_neg hquote, if_neg hnul]
      | postgres => rw [escapeChar, if_neg hquote]
    rw [List.flatMap_cons, he, ih fun e hm => h e (List.mem_cons_of_mem c hm)]
    rfl

/-- Hexadecimal digits are words. -/
theorem isWordChar_of_mem_hexChars {bs : List UInt8} {c : Char} (h : c ∈ Text.hexChars bs) :
    isWordChar c = true := by
  have hdigit : ∀ n < 16, isWordChar (Text.hexDigit n) = true := by decide
  obtain ⟨b, -, hc⟩ := List.mem_flatMap.mp h
  have hb := b.toNat_lt
  rcases List.mem_cons.mp hc with rfl | hc
  · exact hdigit _ (by omega)
  · rw [List.mem_singleton.mp hc]
    exact hdigit _ (by omega)

/-- A byte string is quoted hexadecimal digits behind a word, or before one. -/
theorem holds_bytesLiteral (d : Dialect) (bs : List UInt8) : d.Holds (d.bytesLiteral bs) := by
  have hdigits : ∀ d : Dialect,
      (Text.hex bs).toList.flatMap d.escapeChar = (Text.hex bs).toList := by
    intro d
    apply d.flatMap_escapeChar_of_wordlike
    rw [Text.hex, String.toList_ofList]
    exact fun c => isWordChar_of_mem_hexChars
  cases d with
  | mysql =>
    have he : (bytesLiteral .mysql bs).toList = 'X' :: (quote .mysql (Text.hex bs)).toList := by
      rw [toList_quote, hdigits, bytesLiteral]
      simp
    apply holds_of_reads
    · rw [he]
      exact (reads_quote .mysql (Text.hex bs)).cons (by decide)
    · exact Item.of_words (by simp [Lexeme.isWord, isWordChar])
  | postgres =>
    have he : (bytesLiteral .postgres bs).toList =
        (quote .postgres ("\\x" ++ Text.hex bs)).toList ++ "::bytea".toList := by
      rw [toList_quote, String.toList_append, List.flatMap_append, hdigits, bytesLiteral]
      simp [escapeChar]
    have hword : Wordlike "::bytea".toList := wordlike_of_all (by decide) (by decide)
    apply holds_of_reads
    · rw [he]
      exact (reads_quote .postgres _).append (reads_wordlike .postgres hword) (by decide)
    · apply Item.of_words
      intro l hl
      rcases List.mem_cons.mp hl with rfl | hl
      · rfl
      · exact isWord_of_mem_map_char hword l hl

/-- Joined texts are read one after another. -/
theorem reads_joinWith (d : Dialect) (separator : String) {ss : List String}
    (hne : separator.toList ≠ []) (hq : '\'' ∉ separator.toList)
    (h : ∀ s ∈ ss, d.Reads s.toList (d.lexemes s)) :
    d.Reads (Text.joinWith separator ss).toList
      ((separator.toList.map .char).intercalate (ss.map d.lexemes)) := by
  induction ss with
  | nil => exact d.reads_nil
  | cons s ss ih =>
    have hs := h s List.mem_cons_self
    cases ss with
    | nil =>
      rw [List.map_singleton, List.intercalate_singleton]
      exact hs
    | cons t ss =>
      have hrest := ih fun r hr => h r (List.mem_cons_of_mem s hr)
      have hahead : ∀ cs, (separator.toList ++ cs).head? ≠ some '\'' := by
        obtain ⟨c, cs, hc⟩ := List.exists_cons_of_ne_nil hne
        rw [hc] at hq ⊢
        intro es he
        exact hq (Option.some.inj he ▸ List.mem_cons_self)
      rw [Text.joinWith_cons_cons, String.toList_append, String.toList_append, List.append_assoc,
        List.map_cons, List.map_cons, List.intercalate_cons_cons, List.append_assoc]
      exact hs.append (hrest.map_char_append hq) (hahead _)

/-- Joined texts between parentheses are read between parentheses. -/
theorem reads_parens_joinWith (d : Dialect) (separator : String) {ss : List String}
    (hne : separator.toList ≠ []) (hq : '\'' ∉ separator.toList)
    (h : ∀ s ∈ ss, d.Reads s.toList (d.lexemes s)) :
    d.Reads ("(" ++ Text.joinWith separator ss ++ ")").toList
      (.char '(' :: ((separator.toList.map .char).intercalate (ss.map d.lexemes) ++
        [.char ')'])) := by
  have hclose : d.Reads [')'] [.char ')'] := d.reads_map_char (by decide)
  rw [String.toList_append, String.toList_append, List.append_assoc]
  exact ((d.reads_joinWith separator hne hq h).append hclose (by decide)).cons (by decide)

/-- A list of items is an item. -/
theorem holds_list (d : Dialect) {ss : List String} (h : ∀ s ∈ ss, d.Holds s) :
    d.Holds ("(" ++ Text.joinWith "," ss ++ ")") := by
  have hreads := d.reads_parens_joinWith "," (by decide) (by decide) fun s hs => (h s hs).reads
  apply holds_of_reads hreads
  apply Item.parens
  intro ls hls
  obtain ⟨s, hs, rfl⟩ := List.mem_map.mp hls
  exact (h s hs).item

mutual

/-- The literal of any value is an item. -/
theorem holds_literal (d : Dialect) : ∀ v : Value, d.Holds (d.literal v)
  | .null => d.holds_wordlike (s := "NULL") (wordlike_of_all (by decide) (by decide))
  | .int n => d.holds_int n.toInt
  | .long n => d.holds_int n.toInt
  | .bigint n => d.holds_int n.toInt
  | .byte n => d.holds_int n.toInt
  | .decimal n => d.holds_number _ (by
      rw [String.toList_ofList]
      exact Number.wordlike_withPoint (Number.wordlike_toDigits _) _)
  | .float x => by
    have h := d.holds_floating Number.Layout.single x.datum
    rw [literal, Number.Single.isFinite, Number.Single.text]
    cases hx : x.datum <;> rw [hx] at h <;> exact h
  | .double x => by
    have h := d.holds_floating Number.Layout.double x.datum
    rw [literal, Number.Double.isFinite, Number.Double.text]
    cases hx : x.datum <;> rw [hx] at h <;> exact h
  | .bool b => d.holds_boolLiteral b
  | .bytes bs => d.holds_bytesLiteral bs
  | .list items => d.holds_list (d.holds_literals items)
  | .text s | .other s => d.holds_quote s
  | .timestamp t | .date t | .time t => d.holds_quote t.text

/-- The literals of any values are items. -/
theorem holds_literals (d : Dialect) : ∀ (vs : List Value), ∀ s ∈ d.literals vs, d.Holds s
  | [] => nofun
  | v :: vs => List.forall_mem_cons.mpr ⟨d.holds_literal v, d.holds_literals vs⟩

end

end Dialect

/-- Literals cannot escape their position. Reading the literal of any value from outside a string
ends outside a string, after lexemes that are enclosed; a quoted text is read as one string
that means the text, and what follows it is left, unless it starts with a quote; and the literal
of a text is the quoted text. -/
theorem literal_stays_in_place (d : Dialect) :
    (∀ v : Value, ∃ ls, d.lex (d.literal v).toList = some ls ∧ Enclosed ls) ∧
    (∀ (s : String) (rest : List Char), rest.head? ≠ some '\'' →
      d.nextLexeme ((d.quote s).toList ++ rest) =
        some (.string (d.quote s).toList s.toList, rest)) ∧
    (∀ s : String, d.literal (.text s) = d.quote s ∧ d.literal (.other s) = d.quote s) := by
  refine ⟨?_, ?_, ?_⟩
  · intro v
    have hv := d.holds_literal v
    exact ⟨d.lexemes (d.literal v), hv.reads.lex_eq, hv.item.enclosed⟩
  · intro s rest hr
    exact d.nextLexeme_quote s hr
  · intro s
    exact ⟨rfl, rfl⟩

/-- A text with a quote, a NUL and a backslash at its end is read back under both dialects. -/
theorem quote_backslash_stays_in_place :
    (",(1".toList.head? ≠ some '\'') ∧
      Dialect.nextLexeme .mysql "'a\\'\\0\\\\',(1".toList =
        some (.string "'a\\'\\0\\\\'".toList "a'\x00\\".toList, ",(1".toList) ∧
      Dialect.nextLexeme .postgres "'a''\x00\\',(1".toList =
        some (.string "'a''\x00\\'".toList "a'\x00\\".toList, ",(1".toList) := by
  have hr : ",(1".toList.head? ≠ some '\'' := by decide
  obtain ⟨-, hmysql, -⟩ := literal_stays_in_place .mysql
  obtain ⟨-, hpostgres, -⟩ := literal_stays_in_place .postgres
  exact ⟨hr, hmysql "a'\x00\\" _ hr, hpostgres "a'\x00\\" _ hr⟩

end SqlAccess
