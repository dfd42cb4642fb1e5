import SqlAccess.Proofs.Lexical.Literal

/-!
# Splitting at commas

A text is split at the commas that stand outside strings and outside parentheses, and a tuple at
those that stand outside strings and inside its own parentheses only. Where enclosed texts were joined
with commas, splitting gives them back.
-/

namespace SqlAccess

/-- Splits lexemes at the commas where the depth is zero, by the depth at the start. -/
def splitCommas : Int → List Lexeme → List (List Lexeme)
  | _, [] => [[]]
  | level, l :: ls =>
    if l = .char ',' ∧ level = 0 then [] :: splitCommas level ls
    else (splitCommas (level + l.weight) ls).modifyHead (l :: ·)

/-- Lexemes without the spaces at their left end. -/
def dropSpaces (ls : List Lexeme) : List Lexeme := ls.dropWhile (· = .char ' ')

/-- What lexemes are written as. -/
def sourceText (ls : List Lexeme) : String := String.ofList (ls.flatMap Lexeme.source)

namespace Dialect

/-- The parts of a text between the commas outside strings and parentheses. -/
def outerParts (d : Dialect) (text : String) : Option (List String) :=
  (d.lex text.toList).map fun ls => (splitCommas 0 ls).map sourceText

/-- The parts of a tuple between the commas inside its parentheses only, without the spaces at the
left of each. -/
def tupleParts (d : Dialect) (tuple : String) : Option (List String) :=
  match d.lex tuple.toList with
  | some (.char '(' :: ls) =>
    if ls.getLast? = some (.char ')') then
      some ((splitCommas 0 ls.dropLast).map fun part => sourceText (dropSpaces part))
    else none
  | _ => none

end Dialect

/-- Lexemes without a comma at depth zero go to the front of the first part. -/
theorem splitCommas_append {ls : List Lexeme} {level : Int}
    (h : ∀ before after, ls = before ++ .char ',' :: after → level + depth before ≠ 0)
    (ms : List Lexeme) :
    splitCommas level (ls ++ ms) = (splitCommas (level + depth ls) ms).modifyHead (ls ++ ·) := by
  induction ls generalizing level with
  | nil =>
    rw [depth_nil, Int.add_zero, List.nil_append]
    cases splitCommas level ms <;> rfl
  | cons l ls ih =>
    have hl : ¬ (l = .char ',' ∧ level = 0) := by
      rintro ⟨rfl, rfl⟩
      exact h [] ls rfl rfl
    have hls : ∀ before after, ls = before ++ .char ',' :: after →
        level + l.weight + depth before ≠ 0 := by
      rintro before after rfl
      have hb := h (l :: before) after rfl
      rwa [depth_cons, ← Int.add_assoc] at hb
    rw [List.cons_append, splitCommas, if_neg hl, ih hls, depth_cons, ← Int.add_assoc]
    cases splitCommas (level + l.weight + depth ls) ms <;> rfl

/-- Enclosed lexemes go to the front of the first part. -/
theorem Enclosed.splitCommas_append {ls : List Lexeme} (h : Enclosed ls) (ms : List Lexeme) :
    splitCommas 0 (ls ++ ms) = (splitCommas 0 ms).modifyHead (ls ++ ·) := by
  have hcomma : ∀ before after, ls = before ++ .char ',' :: after → 0 + depth before ≠ 0 := by
    intro before after he
    have hpos := h.depth_comma before after he
    omega
  rw [SqlAccess.splitCommas_append hcomma, h.depth_eq]
  rfl

/-- Splitting gives back enclosed lexemes that were joined with commas. What followed a comma stands
before all of them but the first. -/
theorem splitCommas_intercalate {spaces ls : List Lexeme} {lss : List (List Lexeme)}
    (hs : Enclosed spaces) (h : ∀ ms ∈ ls :: lss, Enclosed ms) :
    splitCommas 0 ((.char ',' :: spaces).intercalate (ls :: lss)) =
      ls :: lss.map (spaces ++ ·) := by
  induction lss generalizing ls with
  | nil =>
    have hls := (h ls List.mem_cons_self).splitCommas_append []
    rw [List.append_nil] at hls
    rw [List.intercalate_singleton, hls]
    simp [splitCommas]
  | cons ms lss ih =>
    have hrest := ih fun ns hn => h ns (List.mem_cons_of_mem ls hn)
    rw [List.intercalate_cons_cons, List.append_assoc, List.cons_append,
      (h ls List.mem_cons_self).splitCommas_append, splitCommas, if_pos ⟨rfl, rfl⟩,
      hs.splitCommas_append, hrest]
    simp

/-- Where no space stands, none is dropped. -/
private theorem dropSpaces_of_notMem {ls : List Lexeme} (h : .char ' ' ∉ ls) :
    dropSpaces ls = ls := by
  cases ls with
  | nil => rfl
  | cons l ls =>
    have hl : l ≠ .char ' ' := fun he => h (he ▸ List.mem_cons_self)
    exact List.dropWhile_cons_of_neg (by simpa using hl)

/-- Nothing is enclosed. -/
private theorem enclosed_nil : Enclosed [] :=
  (Item.of_words fun _ hl => absurd hl List.not_mem_nil).enclosed

/-- A space is enclosed. -/
private theorem enclosed_space : Enclosed [.char ' '] := by
  have hb : Balanced [.char ' '] := balanced_of_bare (by simp [Lexeme.Bare, Lexeme.Quiet])
  exact hb.enclosed (depth_comma_of_notMem (by decide))

/-- Splitting gives back enclosed lexemes between which only commas stand. -/
private theorem splitCommas_joined {lss : List (List Lexeme)} (hne : lss ≠ [])
    (h : ∀ ls ∈ lss, Enclosed ls) : splitCommas 0 ([.char ','].intercalate lss) = lss := by
  obtain ⟨ls, lss, rfl⟩ := List.exists_cons_of_ne_nil hne
  rw [splitCommas_intercalate enclosed_nil h]
  simp

/-- Splitting gives back items between which commas and spaces stand, when the spaces are
dropped. -/
theorem map_dropSpaces_splitCommas_joined {lss : List (List Lexeme)} (hne : lss ≠ [])
    (h : ∀ ls ∈ lss, Item ls) :
    (splitCommas 0 ([.char ',', .char ' '].intercalate lss)).map dropSpaces = lss := by
  have hdrop : ∀ ls ∈ lss, dropSpaces ls = ls := fun ls hl => dropSpaces_of_notMem (h ls hl).space
  obtain ⟨ls, lss, rfl⟩ := List.exists_cons_of_ne_nil hne
  obtain ⟨hls, hlss⟩ := List.forall_mem_cons.mp hdrop
  rw [splitCommas_intercalate enclosed_space fun ms hm => (h ms hm).enclosed, List.map_cons, hls,
    List.map_map]
  have hmap : lss.map (dropSpaces ∘ ([.char ' '] ++ ·)) = lss.map id := List.map_congr_left hlss
  rw [hmap, List.map_id]

namespace Dialect

variable {d : Dialect}

/-- The lexemes of a text that is read are the text. -/
theorem Reads.sourceText_lexemes {s : String} (h : d.Reads s.toList (d.lexemes s)) :
    sourceText (d.lexemes s) = s := by
  rw [sourceText, flatMap_source_of_lex h.lex_eq, String.ofList_toList]

/-- Texts that are read are the texts of their lexemes. -/
theorem map_sourceText_lexemes {ss : List String}
    (h : ∀ s ∈ ss, d.Reads s.toList (d.lexemes s)) :
    (ss.map d.lexemes).map sourceText = ss := by
  rw [List.map_map]
  calc
    ss.map (sourceText ∘ d.lexemes) = ss.map id :=
      List.map_congr_left fun s hs => (h s hs).sourceText_lexemes
    _ = ss := List.map_id ss

/-- Splitting gives back enclosed texts that were joined with commas. -/
theorem outerParts_joinWith {ss : List String} (hne : ss ≠ [])
    (hr : ∀ s ∈ ss, d.Reads s.toList (d.lexemes s)) (he : ∀ s ∈ ss, Enclosed (d.lexemes s)) :
    d.outerParts (Text.joinWith "," ss) = some ss := by
  have hlex := (d.reads_joinWith "," (by decide) (by decide) hr).lex_eq
  have hsplit : splitCommas 0 ([.char ','].intercalate (ss.map d.lexemes)) = ss.map d.lexemes :=
    splitCommas_joined (by simpa using hne) (List.forall_mem_map.mpr he)
  rw [outerParts, hlex, Option.map_some]
  exact congrArg some ((congrArg _ hsplit).trans (map_sourceText_lexemes hr))

/-- Items joined to a tuple are enclosed in it, wherever it stands. -/
theorem enclosed_tuple {ss : List String} (h : ∀ s ∈ ss, d.Holds s) {tuple : String}
    (ht : tuple = "(" ++ Text.joinWith ", " ss ++ ")") :
    d.Reads tuple.toList (d.lexemes tuple) ∧ Enclosed (d.lexemes tuple) := by
  subst ht
  have hr := d.reads_parens_joinWith ", " (by decide) (by decide)
    fun s hs => (h s hs).reads
  have hseparator : Balanced [.char ',', .char ' '] :=
    balanced_of_bare (by simp [Lexeme.Bare, Lexeme.Quiet])
  have hitems : ∀ ls ∈ ss.map d.lexemes, Balanced ls :=
    List.forall_mem_map.mpr fun s hs => (h s hs).item.toBalanced
  have hinner := hseparator.intercalate hitems
  have he := hr.lexemes_eq
  rw [he]
  exact ⟨hr, hinner.parens.enclosed fun before after => hinner.depth_pos_of_comma⟩

/-- Splitting a tuple gives back the items that are joined in it. -/
theorem tupleParts_joinWith {ss : List String} (hne : ss ≠ []) (h : ∀ s ∈ ss, d.Holds s) :
    d.tupleParts ("(" ++ Text.joinWith ", " ss ++ ")") = some ss := by
  have hr : ∀ s ∈ ss, d.Reads s.toList (d.lexemes s) := fun s hs => (h s hs).reads
  have hlex := (d.reads_parens_joinWith ", " (by decide) (by decide) hr).lex_eq
  have hsplit : (splitCommas 0 ([.char ',', .char ' '].intercalate (ss.map d.lexemes))).map
      dropSpaces = ss.map d.lexemes :=
    map_dropSpaces_splitCommas_joined (by simpa using hne)
      (List.forall_mem_map.mpr fun s hs => (h s hs).item)
  have hparts := map_sourceText_lexemes hr
  rw [← hsplit, List.map_map] at hparts
  rw [tupleParts, hlex]
  simp only [List.getLast?_concat, if_true, List.dropLast_concat]
  exact congrArg some hparts

end Dialect

end SqlAccess
