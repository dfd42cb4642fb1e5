import Mathlib.Data.List.Infix
import SqlAccess.Proofs.Lexical.Lexer
import SqlAccess.Proofs.Text.Joined

/-!
# Lexemes that stay in their place

The depth of lexemes is the number of parentheses that they open and do not close, where
parentheses inside strings do not count. `Enclosed` says what makes lexemes one item of a list,
wherever they are put: no parenthesis of the surroundings is closed, no comma separates at
their outermost level, no statement ends and no comment begins. It is reached through `Balanced`,
which lexemes keep when they are put one after another or between parentheses.
-/

namespace SqlAccess

/-- What a lexeme adds to the depth. -/
def Lexeme.weight (l : Lexeme) : Int :=
  if l = .char '(' then 1 else if l = .char ')' then -1 else 0

/-- The number of parentheses that lexemes open and do not close. -/
def depth : List Lexeme → Int
  | [] => 0
  | l :: ls => l.weight + depth ls

/-- Lexemes that are one item of whatever list they are put into. -/
structure Enclosed (ls : List Lexeme) : Prop where
  /-- Every parenthesis that is opened is closed. -/
  depth_eq : depth ls = 0
  /-- No parenthesis is closed that was not opened before. -/
  depth_nonneg : ∀ before, before <+: ls → 0 ≤ depth before
  /-- Commas stand inside parentheses only. -/
  depth_comma : ∀ before after, ls = before ++ .char ',' :: after → 0 < depth before
  semicolon : .char ';' ∉ ls
  hash : .char '#' ∉ ls
  lineComment : ¬ [.char '-', .char '-'] <:+: ls
  blockComment : ¬ [.char '/', .char '*'] <:+: ls

/-- A lexeme that by itself ends no statement and begins no comment. -/
def Lexeme.Quiet (l : Lexeme) : Prop := l ≠ .char ';' ∧ l ≠ .char '#' ∧ l ≠ .char '/'

/-- A lexeme that is quiet, no parenthesis and no minus sign. -/
def Lexeme.Bare (l : Lexeme) : Prop :=
  l.Quiet ∧ l ≠ .char '(' ∧ l ≠ .char ')' ∧ l ≠ .char '-'

/-- Whether a character belongs to a word or an unsigned number. -/
def isWordChar (c : Char) : Bool := c.isAlphanum || c = '.' || c = ':'

/-- Whether a lexeme is a string or belongs to a word or an unsigned number. -/
def Lexeme.isWord : Lexeme → Bool
  | .char c => isWordChar c
  | .string .. => true

/-- Each minus sign among lexemes is followed by one of them, and that is no minus sign. -/
def MinusFollowed (ls : List Lexeme) : Prop :=
  ∀ before after, ls = before ++ .char '-' :: after → ∃ l rest, after = l :: rest ∧ l ≠ .char '-'

/-- Lexemes in which parentheses match, and which end no statement and begin no comment even next
to other such lexemes. -/
structure Balanced (ls : List Lexeme) : Prop where
  depth_eq : depth ls = 0
  depth_nonneg : ∀ before, before <+: ls → 0 ≤ depth before
  quiet : ∀ l ∈ ls, l.Quiet
  minus : MinusFollowed ls

/-- Nothing opens nothing. -/
@[simp] theorem depth_nil : depth [] = 0 := rfl

/-- Every lexeme adds its own weight. -/
@[simp] theorem depth_cons (l : Lexeme) (ls : List Lexeme) :
    depth (l :: ls) = l.weight + depth ls := rfl

/-- The depth of two parts is the sum of theirs. -/
@[simp] theorem depth_append (ls ms : List Lexeme) : depth (ls ++ ms) = depth ls + depth ms := by
  induction ls with
  | nil => exact (Int.zero_add (depth ms)).symm
  | cons l ls ih => rw [List.cons_append, depth_cons, depth_cons, ih, Int.add_assoc]

/-- A character of a word is none that belongs to no word. -/
theorem ne_of_isWordChar {c e : Char} (hc : isWordChar c = true) (he : isWordChar e = false) :
    c ≠ e := by
  rintro rfl
  rw [hc] at he
  cases he

/-- Words are bare. -/
theorem Lexeme.bare_of_isWord {l : Lexeme} (h : l.isWord = true) : l.Bare := by
  refine ⟨⟨?_, ?_, ?_⟩, ?_, ?_, ?_⟩ <;>
    · rintro rfl
      exact absurd h (by decide)

/-- Words hold no other character outside strings. -/
theorem notMem_of_words {ls : List Lexeme} {c : Char} (h : ∀ l ∈ ls, l.isWord = true)
    (hc : isWordChar c = false) : .char c ∉ ls := by
  intro hm
  exact ne_of_isWordChar (h (.char c) hm) hc rfl

/-- What lexemes start with ends among the first of them or goes on among the others. -/
private theorem exists_of_prefix_append {before ls ms : List Lexeme} (h : before <+: ls ++ ms) :
    before <+: ls ∨ ∃ more, more <+: ms ∧ before = ls ++ more := by
  obtain ⟨after, he⟩ := h
  rcases List.append_eq_append_iff.mp he with ⟨more, hls, -⟩ | ⟨more, hbefore, hms⟩
  · exact .inl ⟨more, hls.symm⟩
  · exact .inr ⟨more, ⟨after, hms.symm⟩, hbefore⟩

/-- Where no minus sign stands, none needs to be followed. -/
theorem minusFollowed_of_notMem {ls : List Lexeme} (h : .char '-' ∉ ls) : MinusFollowed ls := by
  rintro before after rfl
  exact absurd (List.mem_append_right before List.mem_cons_self) h

/-- What follows a minus sign follows it in longer lists too. -/
theorem MinusFollowed.append {ls ms : List Lexeme} (hl : MinusFollowed ls)
    (hm : MinusFollowed ms) : MinusFollowed (ls ++ ms) := by
  intro before after he
  rcases List.append_eq_append_iff.mp he with ⟨more, rfl, hms⟩ | ⟨more, hls, hafter⟩
  · exact hm more after hms
  · cases more with
    | nil => exact hm [] after hafter.symm
    | cons l more =>
      obtain ⟨rfl, rfl⟩ := List.cons.inj hafter
      obtain ⟨m, rest, rfl, hne⟩ := hl before more hls
      exact ⟨m, rest ++ ms, rfl, hne⟩

/-- Bare lexemes do not change the depth. -/
private theorem depth_of_bare {ls : List Lexeme} (h : ∀ l ∈ ls, l.Bare) : depth ls = 0 := by
  induction ls with
  | nil => rfl
  | cons l ls ih =>
    obtain ⟨-, hopen, hclose, -⟩ := h l List.mem_cons_self
    rw [depth_cons, Lexeme.weight, if_neg hopen, if_neg hclose,
      ih fun m hm => h m (List.mem_cons_of_mem l hm), Int.add_zero]

/-- Bare lexemes are balanced. -/
theorem balanced_of_bare {ls : List Lexeme} (h : ∀ l ∈ ls, l.Bare) : Balanced ls where
  depth_eq := depth_of_bare h
  depth_nonneg := by
    intro before hb
    exact Int.le_of_eq (depth_of_bare fun l hl => h l (hb.subset hl)).symm
  quiet := fun l hl => (h l hl).1
  minus := minusFollowed_of_notMem fun hm => (h _ hm).2.2.2 rfl

namespace Balanced

variable {ls ms : List Lexeme}

/-- Balanced lexemes can follow each other. -/
theorem append (hl : Balanced ls) (hm : Balanced ms) : Balanced (ls ++ ms) where
  depth_eq := by rw [depth_append, hl.depth_eq, hm.depth_eq, Int.add_zero]
  depth_nonneg := by
    intro before hb
    rcases exists_of_prefix_append hb with hb | ⟨more, hmore, rfl⟩
    · exact hl.depth_nonneg before hb
    · rw [depth_append, hl.depth_eq, Int.zero_add]
      exact hm.depth_nonneg more hmore
  quiet := by
    intro l h
    rcases List.mem_append.mp h with h | h
    · exact hl.quiet l h
    · exact hm.quiet l h
  minus := hl.minus.append hm.minus

/-- A minus sign can stand before balanced lexemes that start with none. -/
theorem minus_cons {l : Lexeme} (h : Balanced (l :: ls)) (hne : l ≠ .char '-') :
    Balanced (.char '-' :: l :: ls) where
  depth_eq := by
    rw [depth_cons, h.depth_eq]
    rfl
  depth_nonneg := by
    intro before hb
    rcases List.prefix_cons_iff.mp hb with rfl | ⟨more, rfl, hmore⟩
    · exact Int.le_refl 0
    · rw [depth_cons]
      have hw : (Lexeme.char '-').weight = 0 := rfl
      rw [hw, Int.zero_add]
      exact h.depth_nonneg more hmore
  quiet := by
    intro m hm
    rcases List.mem_cons.mp hm with rfl | hm
    · simp [Lexeme.Quiet]
    · exact h.quiet m hm
  minus := by
    intro before after he
    cases before with
    | nil =>
      obtain ⟨-, rfl⟩ := List.cons.inj he
      exact ⟨l, ls, rfl, hne⟩
    | cons m before => exact h.minus before after (List.cons.inj he).2

/-- What balanced lexemes between parentheses start with is nothing, everything, or deeper. -/
theorem depth_pos_of_prefix_parens (h : Balanced ls) {before : List Lexeme}
    (hb : before <+: .char '(' :: (ls ++ [.char ')'])) :
    before = [] ∨ 0 < depth before ∨ before = .char '(' :: (ls ++ [.char ')']) := by
  have hopen : (Lexeme.char '(').weight = 1 := rfl
  rcases List.prefix_cons_iff.mp hb with rfl | ⟨inner, rfl, hinner⟩
  · exact .inl rfl
  · rcases exists_of_prefix_append hinner with hinner | ⟨more, hmore, rfl⟩
    · have hn := h.depth_nonneg inner hinner
      refine .inr (.inl ?_)
      rw [depth_cons, hopen]
      omega
    · rcases List.prefix_cons_iff.mp hmore with rfl | ⟨rest, rfl, hrest⟩
      · have hz := h.depth_eq
        refine .inr (.inl ?_)
        rw [depth_cons, hopen, List.append_nil]
        omega
      · rw [List.prefix_nil.mp hrest]
        exact .inr (.inr rfl)

/-- Balanced lexemes between parentheses are balanced. -/
theorem parens (h : Balanced ls) : Balanced (.char '(' :: (ls ++ [.char ')'])) where
  depth_eq := by
    rw [depth_cons, depth_append, h.depth_eq]
    rfl
  depth_nonneg := by
    intro before hb
    rcases h.depth_pos_of_prefix_parens hb with rfl | hpos | rfl
    · exact Int.le_refl 0
    · omega
    · rw [depth_cons, depth_append, h.depth_eq]
      decide
  quiet := by
    intro l hl
    rcases List.mem_cons.mp hl with rfl | hl
    · simp [Lexeme.Quiet]
    · rcases List.mem_append.mp hl with hl | hl
      · exact h.quiet l hl
      · rw [List.mem_singleton.mp hl]
        simp [Lexeme.Quiet]
  minus := by
    have hopen : MinusFollowed [.char '('] := minusFollowed_of_notMem (by decide)
    have hclose : MinusFollowed [.char ')'] := minusFollowed_of_notMem (by decide)
    exact hopen.append (h.minus.append hclose)

/-- A comma between parentheses stands deeper than what is around them. -/
theorem depth_pos_of_comma (h : Balanced ls) {before after : List Lexeme}
    (he : .char '(' :: (ls ++ [.char ')']) = before ++ .char ',' :: after) : 0 < depth before := by
  rcases h.depth_pos_of_prefix_parens ⟨_, he.symm⟩ with rfl | hpos | rfl
  · cases he
  · exact hpos
  · have hl := congrArg List.length he
    rw [List.length_append, List.length_cons (a := Lexeme.char ',')] at hl
    omega

/-- Balanced lexemes are enclosed when each comma among them stands deeper. -/
theorem enclosed (h : Balanced ls)
    (hcomma : ∀ before after, ls = before ++ .char ',' :: after → 0 < depth before) :
    Enclosed ls where
  depth_eq := h.depth_eq
  depth_nonneg := h.depth_nonneg
  depth_comma := hcomma
  semicolon := fun hm => (h.quiet _ hm).1 rfl
  hash := fun hm => (h.quiet _ hm).2.1 rfl
  lineComment := by
    rintro ⟨before, after, he⟩
    obtain ⟨l, rest, hrest, hne⟩ := h.minus before (.char '-' :: after) (by simp [← he])
    exact hne (List.cons.inj hrest).1.symm
  blockComment := by
    intro hcomment
    exact (h.quiet (.char '/') (hcomment.subset List.mem_cons_self)).2.2 rfl

/-- A separator between balanced lexemes leaves them balanced. -/
theorem intercalate {separator : List Lexeme} {lss : List (List Lexeme)} (hs : Balanced separator)
    (h : ∀ ls ∈ lss, Balanced ls) : Balanced (separator.intercalate lss) := by
  induction lss with
  | nil => exact balanced_of_bare nofun
  | cons ls rest ih =>
    have hls := h ls List.mem_cons_self
    have hrest := ih fun ms hm => h ms (List.mem_cons_of_mem ls hm)
    cases rest with
    | nil => rwa [List.intercalate_singleton]
    | cons ms rest =>
      rw [List.intercalate_cons_cons]
      exact (hls.append hs).append hrest

end Balanced

/-- Balanced lexemes without a comma at their outermost level and without blanks. -/
structure Item (ls : List Lexeme) : Prop extends Balanced ls where
  depth_comma : ∀ before after, ls = before ++ .char ',' :: after → 0 < depth before
  space : .char ' ' ∉ ls

/-- Where no comma stands, none separates. -/
theorem depth_comma_of_notMem {ls : List Lexeme} (h : .char ',' ∉ ls) (before after : List Lexeme)
    (he : ls = before ++ .char ',' :: after) : 0 < depth before := by
  subst he
  exact absurd (List.mem_append_right before List.mem_cons_self) h

namespace Item

variable {ls : List Lexeme}

/-- Items are enclosed. -/
theorem enclosed (h : Item ls) : Enclosed ls := h.toBalanced.enclosed h.depth_comma

/-- Words are items. -/
theorem of_words (h : ∀ l ∈ ls, l.isWord = true) : Item ls where
  toBalanced := balanced_of_bare fun l hl => Lexeme.bare_of_isWord (h l hl)
  depth_comma := depth_comma_of_notMem (notMem_of_words h rfl)
  space := notMem_of_words h rfl

/-- A word with a minus sign before it is an item. -/
theorem minus_of_words (h : ∀ l ∈ ls, l.isWord = true) (hne : ls ≠ []) :
    Item (.char '-' :: ls) := by
  obtain ⟨l, ls, rfl⟩ := List.exists_cons_of_ne_nil hne
  have hminus : .char '-' ∉ l :: ls := notMem_of_words h rfl
  have hl : l ≠ .char '-' := fun he => hminus (he ▸ List.mem_cons_self)
  have hitem := of_words h
  refine ⟨hitem.toBalanced.minus_cons hl, depth_comma_of_notMem ?_, ?_⟩
  · intro hm
    rcases List.mem_cons.mp hm with he | hm
    · cases he
    · exact notMem_of_words h rfl hm
  · intro hm
    rcases List.mem_cons.mp hm with he | hm
    · cases he
    · exact hitem.space hm

/-- Items with a comma between neighbours are an item when parentheses stand around them. -/
theorem parens {lss : List (List Lexeme)} (h : ∀ ls ∈ lss, Item ls) :
    Item (.char '(' :: ([.char ','].intercalate lss ++ [.char ')'])) := by
  have hcomma : Balanced [.char ','] := balanced_of_bare (by simp [Lexeme.Bare, Lexeme.Quiet])
  have hinner := hcomma.intercalate fun ls hl => (h ls hl).toBalanced
  refine ⟨hinner.parens, fun before after he => hinner.depth_pos_of_comma he, ?_⟩
  intro hm
  rcases List.mem_cons.mp hm with he | hm
  · cases he
  · rcases List.mem_append.mp hm with hm | hm
    · rcases Text.mem_of_mem_intercalate hm with he | ⟨ls, hls, hm⟩
      · cases List.mem_singleton.mp he
      · exact (h ls hls).space hm
    · cases List.mem_singleton.mp hm

end Item

end SqlAccess
