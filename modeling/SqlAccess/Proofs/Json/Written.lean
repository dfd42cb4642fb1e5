import SqlAccess.Proofs.Json.Numbers

/-!
# JSON texts are read back

The compact text of a value is taken apart into the value as it was written, at any place where
nothing follows that goes on with a number. Strings are read back unit by unit from their escapes,
numbers from their parts, and arrays and objects item by item; the length of the text is fuel enough
at every depth.
-/

namespace SqlAccess

namespace JsonText

variable {rest : List Char}

/-! ## Strings -/

/-- How a character is written inside a string: as it is, by a letter behind a backslash, or by its
code. -/
inductive Escaped (c : Char) : List Char → Prop
  | plain (hquote : c ≠ '"') (hbackslash : c ≠ '\\') (hcode : ¬c.toNat < 32) : Escaped c [c]
  | letter {l : Char} (hl : l ≠ 'u') (h : unescaped? l = some c) : Escaped c ['\\', l]
  | code (h : c.toNat < 32) :
      Escaped c ['\\', 'u', '0', '0', Nat.digitChar (c.toNat / 16), Nat.digitChar (c.toNat % 16)]

/-- Every character is written in one of the escaped forms, or as it is. -/
theorem escaped_escapeChar (c : Char) : Escaped c (Json.escapeChar c) := by
  have hofNat {n : Nat} (h : c.toNat = n) : Char.ofNat n = c := h ▸ Char.ofNat_toNat c
  unfold Json.escapeChar
  iterate 5
    split
    · subst c
      exact .letter (by decide) rfl
  iterate 2
    split
    · rename_i h
      exact .letter (by decide) (congrArg some (hofNat h))
  split
  · rename_i h
    exact .code h
  · rename_i hquote hbackslash _ _ _ _ _ hcode
    exact .plain hquote hbackslash hcode

/-- No character is written as nothing. -/
theorem Escaped.ne_nil {c : Char} {cs : List Char} (h : Escaped c cs) : cs ≠ [] := by
  cases h <;> exact List.cons_ne_nil _ _

/-- The written form of a character does not close the string. -/
theorem Escaped.startsOff {c : Char} {cs : List Char} (h : Escaped c cs) :
    StartsOff (· = '"') (cs ++ rest) := by
  cases h with
  | plain hquote => exact startsOff_cons (decide_eq_false hquote) _
  | letter => exact startsOff_cons rfl _
  | code => exact startsOff_cons rfl _

/-- A character is read back from its written form. -/
theorem Escaped.readUnit_append {c : Char} {cs : List Char} (h : Escaped c cs) :
    readUnit (cs ++ rest) = some (some c, rest) := by
  cases h with
  | plain _ hbackslash hcode =>
    rw [List.singleton_append, readUnit, if_neg hcode]
    · exact fun _ h _ => hbackslash h
    · exact fun _ _ h _ => hbackslash h
  | letter hl h =>
    simp only [List.cons_append, List.nil_append]
    rw [readUnit, h, Option.map_some]
    exact fun h => hl h
  | code h =>
    have hcode : ∀ n < 32,
        hexFour '0' '0' (Nat.digitChar (n / 16)) (Nat.digitChar (n % 16)) = some n := by decide
    have hlow : c.toNat < 0xD800 ∨ 0xE000 ≤ c.toNat := by omega
    simp only [List.cons_append, List.nil_append, readUnit, readCode, hcode c.toNat h,
      Option.map_some, ofCode, if_pos hlow, Char.ofNat_toNat]

/-- The characters of a string are read back up to the closing quote. -/
theorem stringUnits_escaped (cs : List Char) {fuel : Nat} (hfuel : cs.length < fuel) :
    stringUnits fuel (cs.flatMap Json.escapeChar ++ '"' :: rest) = some (cs.map some, rest) := by
  induction cs generalizing fuel with
  | nil =>
    obtain ⟨fuel, rfl⟩ := Nat.exists_eq_add_of_lt hfuel
    rfl
  | cons c cs ih =>
    obtain ⟨fuel, rfl⟩ : ∃ k, fuel = k + 1 := ⟨fuel - 1, by omega⟩
    have hc := escaped_escapeChar c
    rw [List.flatMap_cons, List.append_assoc, stringUnits, hc.readUnit_append]
    · simp only [ih (Nat.lt_of_succ_lt_succ hfuel), Option.map_some, List.map_cons]
    · intro more hmore
      cases hc.startsOff '"' (by rw [hmore]; rfl)

private theorem mapM_id_map_some (cs : List Char) : (cs.map some).mapM id = some cs := by
  induction cs with
  | nil => rfl
  | cons c cs ih => simp [List.mapM_cons, ih]

/-- No character is lost in the written form. -/
theorem length_le_length_escaped (cs : List Char) :
    cs.length ≤ (cs.flatMap Json.escapeChar).length := by
  induction cs with
  | nil => exact Nat.le_refl _
  | cons c cs ih =>
    have hc := List.length_pos_of_ne_nil (escaped_escapeChar c).ne_nil
    rw [List.flatMap_cons, List.length_append, List.length_cons]
    omega

/-- A string is read back from what stands behind its opening quote. -/
theorem readString_escaped (s : String) :
    readString (s.toList.flatMap Json.escapeChar ++ '"' :: rest) = some (some s, rest) := by
  have hlength := length_le_length_escaped s.toList
  have hfuel : s.toList.length <
      (s.toList.flatMap Json.escapeChar ++ '"' :: rest).length + 1 := by
    rw [List.length_append]
    omega
  simp only [readString, stringUnits_escaped s.toList hfuel, Option.map_some, mapM_id_map_some,
    String.ofList_toList]

end JsonText

/-! ## Values -/

namespace Json

mutual

/-- All floating-point numbers in a value are finite. -/
def AllFinite : Json → Prop
  | .float x => x.isFinite = true
  | .array items => ItemsFinite items
  | .object members => MembersFinite members
  | _ => True

/-- All floating-point numbers in the items of an array are finite. -/
def ItemsFinite : List Json → Prop
  | [] => True
  | v :: rest => AllFinite v ∧ ItemsFinite rest

/-- All floating-point numbers in the members of an object are finite. -/
def MembersFinite : List (String × Json) → Prop
  | [] => True
  | (_, v) :: rest => AllFinite v ∧ MembersFinite rest

end

/-- The members of an object are finite exactly if each of them is. -/
theorem membersFinite_iff {members : List (String × Json)} :
    MembersFinite members ↔ ∀ m ∈ members, m.2.AllFinite := by
  induction members with
  | nil => simp [MembersFinite]
  | cons m members ih => rw [MembersFinite, List.forall_mem_cons, ih]

end Json

namespace JsonText

mutual

/-- A value taken apart as it is written. -/
def ofJson : Json → JsonText
  | .null => .null
  | .bool b => .bool b
  | .int n => .number (.ofInt n)
  | .float x => .number (.ofDouble x)
  | .string s => .string (some s)
  | .array items => .array (ofItems items)
  | .object members => .object (ofMembers members)

/-- The items of an array taken apart. -/
def ofItems : List Json → List JsonText
  | [] => []
  | v :: rest => ofJson v :: ofItems rest

/-- The members of an object taken apart. -/
def ofMembers : List (String × Json) → List (Option String × JsonText)
  | [] => []
  | (name, v) :: rest => (some name, ofJson v) :: ofMembers rest

end

/-- Nothing is skipped of a text that starts with no space. -/
theorem skipSpace_eq {cs : List Char} (h : StartsOff isSpace cs) : skipSpace cs = cs := by
  cases cs with
  | nil => rfl
  | cons c cs => exact List.dropWhile_cons_of_neg (by simp [h c rfl])

private theorem skipSpace_cons {c : Char} (h : isSpace c = false) (cs : List Char) :
    skipSpace (c :: cs) = c :: cs :=
  skipSpace_eq (startsOff_cons h cs)

/-- A number starts with a digit or a minus sign. -/
theorem startsOff_text {n : NumberText} (h : n.WellFormed) {p : Char → Bool}
    (hdigit : ∀ c, c.isDigit = true → p c = false) (hminus : p '-' = false) :
    StartsOff p (n.text ++ rest) := by
  rw [NumberText.text, List.append_assoc, List.append_assoc, List.append_assoc]
  cases n.negative with
  | true => exact startsOff_cons hminus _
  | false => exact h.whole.startsOff hdigit _

/-- The characters that start another value than a number. -/
def startsOther (c : Char) : Bool :=
  c = 'n' || c = 't' || c = 'f' || c = '"' || c = '[' || c = '\x7b'

/-- A number reads back up to the end of its text. -/
theorem readValue_text {n : NumberText} (h : n.WellFormed)
    (hrest : StartsOff NumberText.goesOn rest) (fuel : Nat) :
    readValue (fuel + 1) (n.text ++ rest) = some (.number n, rest) := by
  have hspace : StartsOff isSpace (n.text ++ rest) :=
    startsOff_text h (fun c hc => by simp [isSpace, ne_of_isDigit hc]) rfl
  have hother : StartsOff startsOther (n.text ++ rest) :=
    startsOff_text h (fun c hc => by simp [startsOther, ne_of_isDigit hc]) rfl
  have hne {c : Char} (hc : startsOther c = true) (cs : List Char) : n.text ++ rest ≠ c :: cs := by
    intro heq
    have := hother c (by rw [heq]; rfl)
    rw [hc] at this
    cases this
  rw [readValue, skipSpace_eq hspace]
  split
  case h_7 => rw [readNumber_text h hrest, Option.map_some]
  all_goals
    rename_i heq
    exact absurd heq (hne rfl _)

/-- A bracket opens the items of an array. -/
theorem readValue_bracket {cs : List Char} (h : StartsOff (fun c => isSpace c || c = ']') cs)
    (fuel : Nat) : readValue (fuel + 1) ('[' :: cs) =
      (readItems fuel cs).map fun (items, rest) => (.array items, rest) := by
  have hspace : StartsOff isSpace cs := fun c hc => (Bool.or_eq_false_iff.mp (h c hc)).1
  simp only [readValue, skipSpace_cons (c := '[') rfl, skipSpace_eq hspace]
  split
  · cases h ']' rfl
  · rfl

/-- A brace opens the members of an object. -/
theorem readValue_brace {cs : List Char} (h : StartsOff (fun c => isSpace c || c = '\x7d') cs)
    (fuel : Nat) : readValue (fuel + 1) ('\x7b' :: cs) =
      (readMembers fuel cs).map fun (members, rest) => (.object members, rest) := by
  have hspace : StartsOff isSpace cs := fun c hc => (Bool.or_eq_false_iff.mp (h c hc)).1
  simp only [readValue, skipSpace_cons (c := '\x7b') rfl, skipSpace_eq hspace]
  split
  · cases h '\x7d' rfl
  · rfl

/-- A text is quoted with every character escaped. -/
theorem toList_quoted (s : String) :
    (Json.quoted s).toList = '"' :: (s.toList.flatMap Json.escapeChar ++ ['"']) :=
  String.toList_ofList

/-- An array is its items between brackets. -/
private theorem toList_compact_array (items : List Json) :
    (Json.array items).compact.toList = '[' :: ((Json.compactItems items).toList ++ [']']) := by
  simp [Json.compact]

/-- An object is its members between braces. -/
private theorem toList_compact_object (members : List (String × Json)) :
    (Json.object members).compact.toList =
      '\x7b' :: ((Json.compactMembers members).toList ++ ['\x7d']) := by
  simp [Json.compact]

/-- A comma stands between items. -/
private theorem toList_compactItems_cons (v w : Json) (items : List Json) :
    (Json.compactItems (v :: w :: items)).toList =
      v.compact.toList ++ ',' :: (Json.compactItems (w :: items)).toList := by
  simp [Json.compactItems]

/-- A member is its quoted name, a colon and its value. -/
private theorem toList_compactMembers_singleton (name : String) (v : Json) :
    (Json.compactMembers [(name, v)]).toList =
      '"' :: (name.toList.flatMap Json.escapeChar ++ '"' :: ':' :: v.compact.toList) := by
  simp [Json.compactMembers, toList_quoted]

/-- A comma stands between members. -/
private theorem toList_compactMembers_cons (name : String) (v : Json) (m : String × Json)
    (members : List (String × Json)) :
    (Json.compactMembers ((name, v) :: m :: members)).toList =
      (Json.compactMembers [(name, v)]).toList ++
        ',' :: (Json.compactMembers (m :: members)).toList := by
  simp [Json.compactMembers]

/-- A value starts with neither a blank nor a closing bracket. -/
theorem startsOff_compact {j : Json} (hj : j.AllFinite) :
    StartsOff (fun c => isSpace c || c = ']') (j.compact.toList ++ rest) := by
  cases j with
  | null => exact startsOff_cons rfl _
  | bool b => cases b <;> exact startsOff_cons rfl _
  | int n =>
    rw [Json.compact, ← NumberText.text_ofInt]
    exact startsOff_text (NumberText.wellFormed_ofInt n)
      (fun c hc => by simp [isSpace, ne_of_isDigit hc]) rfl
  | float x =>
    rw [Json.compact, ← NumberText.text_ofDouble hj]
    exact startsOff_text (NumberText.wellFormed_ofDouble x)
      (fun c hc => by simp [isSpace, ne_of_isDigit hc]) rfl
  | string s =>
    rw [Json.compact, toList_quoted]
    exact startsOff_cons rfl _
  | array items =>
    rw [toList_compact_array]
    exact startsOff_cons rfl _
  | object members =>
    rw [toList_compact_object]
    exact startsOff_cons rfl _

/-- The items of an array start as the first of them does. -/
private theorem startsOff_compactItems {v : Json} {items : List Json} (hv : v.AllFinite) :
    StartsOff (fun c => isSpace c || c = ']') ((Json.compactItems (v :: items)).toList ++ rest) := by
  cases items with
  | nil => exact startsOff_compact hv
  | cons w items =>
    rw [toList_compactItems_cons, List.append_assoc]
    exact startsOff_compact hv

/-- The members of an object start with the quote of the first name. -/
theorem startsOff_compactMembers {m : String × Json} {members : List (String × Json)} :
    StartsOff (fun c => isSpace c || c = '\x7d')
      ((Json.compactMembers (m :: members)).toList ++ rest) := by
  cases members with
  | nil =>
    rw [toList_compactMembers_singleton]
    exact startsOff_cons rfl _
  | cons n members =>
    rw [toList_compactMembers_cons, toList_compactMembers_singleton]
    exact startsOff_cons rfl _

section Steps

variable {fuel : Nat} {cs more : List Char} {v : JsonText}

/-- An item before the closing bracket is the last one. -/
private theorem readItems_last (h : readValue fuel cs = some (v, ']' :: rest)) :
    readItems (fuel + 1) cs = some ([v], rest) := by
  simp only [readItems, h, skipSpace_cons (c := ']') rfl]

/-- An item before a comma is followed by others. -/
private theorem readItems_more (h : readValue fuel cs = some (v, ',' :: more)) :
    readItems (fuel + 1) cs = (readItems fuel more).map fun (items, rest) => (v :: items, rest) := by
  simp only [readItems, h, skipSpace_cons (c := ',') rfl]

/-- A member before the closing brace is the last one. -/
private theorem readMembers_last (name : String)
    (h : readValue fuel cs = some (v, '\x7d' :: rest)) :
    readMembers (fuel + 1) ('"' :: (name.toList.flatMap Json.escapeChar ++ '"' :: ':' :: cs)) =
      some ([(some name, v)], rest) := by
  simp only [readMembers, h, readString_escaped, skipSpace_cons (c := '"') rfl,
    skipSpace_cons (c := ':') rfl,
    skipSpace_cons (c := '\x7d') rfl]

/-- A member before a comma is followed by others. -/
private theorem readMembers_more (name : String) (h : readValue fuel cs = some (v, ',' :: more)) :
    readMembers (fuel + 1) ('"' :: (name.toList.flatMap Json.escapeChar ++ '"' :: ':' :: cs)) =
      (readMembers fuel more).map fun (members, rest) => ((some name, v) :: members, rest) := by
  simp only [readMembers, h, readString_escaped, skipSpace_cons (c := '"') rfl,
    skipSpace_cons (c := ':') rfl,
    skipSpace_cons (c := ',') rfl]

end Steps

mutual

/-- A value is read back from its compact text, whatever follows that does not go on with a number.
Each item and each level of nesting takes one step of fuel and at least one character, so the length
of a text is fuel enough for all its parts. -/
theorem readValue_compact : ∀ (j : Json) (_ : j.AllFinite) (fuel : Nat)
    (_ : j.compact.toList.length ≤ fuel) (rest : List Char) (_ : StartsOff NumberText.goesOn rest),
    readValue (fuel + 1) (j.compact.toList ++ rest) = some (ofJson j, rest)
  | .null => fun _ _ _ _ _ => rfl
  | .bool true => fun _ _ _ _ _ => rfl
  | .bool false => fun _ _ _ _ _ => rfl
  | .int n => fun _ fuel _ rest hrest => by
    rw [Json.compact, ← NumberText.text_ofInt]
    exact readValue_text (NumberText.wellFormed_ofInt n) hrest fuel
  | .float x => fun hj fuel _ rest hrest => by
    rw [Json.compact, ← NumberText.text_ofDouble hj]
    exact readValue_text (NumberText.wellFormed_ofDouble x) hrest fuel
  | .string s => fun _ fuel _ rest _ => by
    simp only [Json.compact, toList_quoted, List.cons_append, List.append_assoc, List.nil_append,
      readValue, skipSpace_cons (c := '"') rfl, readString_escaped,
      Option.map_some, ofJson]
  | .array [] => fun _ _ _ _ _ => rfl
  | .array (v :: items) => fun hj fuel hfuel rest _ => by
    rw [toList_compact_array, List.length_cons, List.length_append, List.length_singleton] at hfuel
    obtain ⟨fuel, rfl⟩ : ∃ k, fuel = k + 2 := ⟨fuel - 2, by omega⟩
    rw [toList_compact_array, List.cons_append, List.append_assoc, List.singleton_append,
      readValue_bracket (startsOff_compactItems hj.1),
      readItems_compact (v :: items) hj (List.cons_ne_nil _ _) fuel (by omega), Option.map_some,
      ofJson]
  | .object [] => fun _ _ _ _ _ => rfl
  | .object (m :: members) => fun hj fuel hfuel rest _ => by
    rw [toList_compact_object, List.length_cons, List.length_append, List.length_singleton] at hfuel
    obtain ⟨fuel, rfl⟩ : ∃ k, fuel = k + 2 := ⟨fuel - 2, by omega⟩
    rw [toList_compact_object, List.cons_append, List.append_assoc, List.singleton_append,
      readValue_brace startsOff_compactMembers,
      readMembers_compact (m :: members) hj (List.cons_ne_nil _ _) fuel (by omega),
      Option.map_some, ofJson]

/-- The items of an array are read back with its closing bracket. -/
theorem readItems_compact : ∀ (items : List Json) (_ : Json.ItemsFinite items) (_ : items ≠ [])
    (fuel : Nat) (_ : (Json.compactItems items).toList.length ≤ fuel) (rest : List Char),
    readItems (fuel + 2) ((Json.compactItems items).toList ++ ']' :: rest) =
      some (ofItems items, rest)
  | [] => fun _ hne => absurd rfl hne
  | [v] => fun h _ fuel hfuel rest =>
    readItems_last (readValue_compact v h.1 fuel hfuel _ (startsOff_cons rfl _))
  | v :: w :: items => fun h _ fuel hfuel rest => by
    rw [toList_compactItems_cons, List.length_append, List.length_cons] at hfuel
    have hv := readValue_compact v h.1 fuel (by omega)
      (',' :: ((Json.compactItems (w :: items)).toList ++ ']' :: rest)) (startsOff_cons rfl _)
    obtain ⟨fuel, rfl⟩ : ∃ k, fuel = k + 1 := ⟨fuel - 1, by omega⟩
    rw [toList_compactItems_cons, List.append_assoc, List.cons_append, readItems_more hv,
      readItems_compact (w :: items) h.2 (List.cons_ne_nil _ _) fuel (by omega)]
    rfl

/-- The members of an object are read back with its closing brace. -/
theorem readMembers_compact : ∀ (members : List (String × Json)) (_ : Json.MembersFinite members)
    (_ : members ≠ []) (fuel : Nat) (_ : (Json.compactMembers members).toList.length ≤ fuel)
    (rest : List Char),
    readMembers (fuel + 2) ((Json.compactMembers members).toList ++ '\x7d' :: rest) =
      some (ofMembers members, rest)
  | [] => fun _ hne => absurd rfl hne
  | [(name, v)] => fun h _ fuel hfuel rest => by
    rw [toList_compactMembers_singleton] at hfuel ⊢
    simp only [List.length_cons, List.length_append] at hfuel
    simp only [List.cons_append, List.append_assoc]
    exact readMembers_last name (readValue_compact v h.1 fuel (by omega) _ (startsOff_cons rfl _))
  | (name, v) :: m :: members => fun h _ fuel hfuel rest => by
    rw [toList_compactMembers_cons, toList_compactMembers_singleton] at hfuel ⊢
    simp only [List.length_cons, List.length_append] at hfuel
    have hv := readValue_compact v h.1 fuel (by omega)
      (',' :: ((Json.compactMembers (m :: members)).toList ++ '\x7d' :: rest)) (startsOff_cons rfl _)
    obtain ⟨fuel, rfl⟩ : ∃ k, fuel = k + 1 := ⟨fuel - 1, by omega⟩
    simp only [List.cons_append, List.append_assoc]
    rw [readMembers_more name hv,
      readMembers_compact (m :: members) h.2 (List.cons_ne_nil _ _) fuel (by omega)]
    rfl

end

/-- The compact text of a value is read as that value. -/
theorem read_compact {j : Json} (hj : j.AllFinite) :
    read j.compact.toList = some (ofJson j) := by
  have h := readValue_compact j hj j.compact.toList.length (Nat.le_refl _) [] (startsOff_nil _)
  rw [List.append_nil] at h
  rw [read, h]
  rfl

end JsonText

end SqlAccess
