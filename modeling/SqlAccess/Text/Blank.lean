/-!
# Blank characters and trimmed text

A character is blank when the Unicode standard gives it the property White_Space.
Trimming removes blanks from both ends of a text and keeps everything between them.
-/

namespace SqlAccess.Text

/-- The characters with the Unicode property White_Space. -/
def isBlank (c : Char) : Bool :=
  let n := c.toNat
  (9 ≤ n && n ≤ 13) || n == 0x20 || n == 0x85 || n == 0xA0 || n == 0x1680 ||
    (0x2000 ≤ n && n ≤ 0x200A) || n == 0x2028 || n == 0x2029 || n == 0x202F ||
    n == 0x205F || n == 0x3000

/-- Removes the blanks at the left end. -/
def dropBlanks (cs : List Char) : List Char := cs.dropWhile isBlank

/-- Removes the blanks at the right end. -/
def dropBlanksRight (cs : List Char) : List Char := (cs.reverse.dropWhile isBlank).reverse

/-- Removes the blanks at both ends of a list of characters. -/
def trimChars (cs : List Char) : List Char := dropBlanksRight (dropBlanks cs)

/-- Blanks in front are removed. -/
theorem dropBlanks_append {before : List Char} (h : ∀ c ∈ before, isBlank c = true)
    (rest : List Char) : dropBlanks (before ++ rest) = dropBlanks rest :=
  List.dropWhile_append_of_pos h

/-- Nothing is removed in front of other characters. -/
theorem dropBlanks_of_solid {cs : List Char} (hne : cs ≠ [])
    (h : ∀ c ∈ cs, isBlank c = false) (rest : List Char) :
    dropBlanks (cs ++ rest) = cs ++ rest := by
  obtain ⟨c, cs, rfl⟩ := List.exists_cons_of_ne_nil hne
  exact List.dropWhile_cons_of_neg (by simp [h c List.mem_cons_self])

/-- Trimming takes away the blanks around a text that has none, and nothing else. -/
theorem trimChars_append {before cs after : List Char} (hne : cs ≠ [])
    (hbefore : ∀ c ∈ before, isBlank c = true) (hcs : ∀ c ∈ cs, isBlank c = false)
    (hafter : ∀ c ∈ after, isBlank c = true) : trimChars (before ++ cs ++ after) = cs := by
  have hfront : dropBlanks (before ++ cs ++ after) = cs ++ after := by
    rw [List.append_assoc, dropBlanks_append hbefore, dropBlanks_of_solid hne hcs]
  have hback : dropBlanks (after.reverse ++ cs.reverse) = cs.reverse := by
    have hsolid : dropBlanks (cs.reverse ++ []) = cs.reverse ++ [] :=
      dropBlanks_of_solid (by simpa using hne) (by simpa using hcs) []
    rw [dropBlanks_append (by simpa using hafter)]
    simpa using hsolid
  rw [trimChars, hfront, dropBlanksRight, List.reverse_append]
  exact (congrArg List.reverse hback).trans (List.reverse_reverse cs)

/-- Removes the blanks at both ends of a text. -/
def trim (s : String) : String := String.ofList (trimChars s.toList)

/-- Writes the ASCII letters of a text in lower case and leaves every other character. -/
def asciiLower (s : String) : String := String.ofList (s.toList.map Char.toLower)

/-- Writes the ASCII letters of a text in upper case and leaves every other character. -/
def asciiUpper (s : String) : String := String.ofList (s.toList.map Char.toUpper)

/-- Splits at every separator; there is always one piece more than there are separators. -/
def pieces (separator : Char) : List Char → List (List Char)
  | [] => [[]]
  | c :: cs =>
    if c = separator then [] :: pieces separator cs
    else
      match pieces separator cs with
      | [] => [[c]]
      | piece :: rest => (c :: piece) :: rest

/-- What stands before the first separator, and what stands after it if there is one. -/
def cutAt (separator : Char) : List Char → List Char × Option (List Char)
  | [] => ([], none)
  | c :: cs =>
    if c = separator then ([], some cs)
    else
      let (before, after) := cutAt separator cs
      (c :: before, after)

/-- The pieces of a text between its commas, each trimmed. -/
def trimmedPieces (s : String) : List String :=
  (pieces ',' s.toList).map fun piece => String.ofList (trimChars piece)

/-- Texts one after another with a separator between neighbours. -/
def joinWith (separator : String) : List String → String
  | [] => ""
  | [s] => s
  | s :: rest => s ++ separator ++ joinWith separator rest

/-- Whether one list of characters occurs inside another without a gap. -/
def occursIn (needle : List Char) : List Char → Bool
  | [] => needle.isEmpty
  | c :: cs => needle.isPrefixOf (c :: cs) || occursIn needle cs

end SqlAccess.Text
