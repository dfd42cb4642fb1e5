import Mathlib.Data.List.Basic
import SqlAccess.Dialect

/-!
# Reading placeholders

A prepared statement is read from left to right as characters and placeholders. A placeholder
is a question mark in one dialect; in the other it is a dollar sign with all the digits after it,
and a dollar sign without a digit is a character like any other. Substitution goes through the same
reading once and writes the literal of the next parameter where a placeholder stands, so a
mark inside a literal is never read as a placeholder.
-/

namespace SqlAccess

/-- One piece of a prepared statement, in reading order. -/
inductive Piece
  | char (c : Char)
  | placeholder (text : List Char)
  deriving DecidableEq

/-- What a placeholder is written as; a character is none. -/
def Piece.placeholder? : Piece → Option String
  | .char _ => none
  | .placeholder text => some (String.ofList text)

namespace Dialect

/-- The character that every placeholder of a dialect starts with. -/
def mark : Dialect → Char
  | .mysql => '?'
  | .postgres => '$'

/-- The digits that belong to a placeholder whose mark has just been read. -/
def number (d : Dialect) (cs : List Char) : List Char :=
  match d with
  | .mysql => []
  | .postgres => cs.takeWhile Char.isDigit

/-- Whether a character starts a placeholder, by what follows it. -/
def startsPlaceholder (d : Dialect) (c : Char) (cs : List Char) : Bool :=
  c = d.mark && (d = .mysql || !(d.number cs).isEmpty)

/-- The characters and placeholders of a prepared statement. -/
def pieces (d : Dialect) : List Char → List Piece
  | [] => []
  | c :: cs =>
    if d.startsPlaceholder c cs then
      .placeholder (c :: d.number cs) :: d.pieces (cs.drop (d.number cs).length)
    else .char c :: d.pieces cs
termination_by cs => cs.length

/-- The placeholders of a prepared statement, each as it is written. -/
def placeholders (d : Dialect) (sql : String) : List String :=
  (d.pieces sql.toList).filterMap Piece.placeholder?

/-- Writes the literals of values, in order, where placeholders stand. -/
def fill (d : Dialect) : List Piece → List Value → List Char
  | [], _ => []
  | .char c :: rest, vs => c :: d.fill rest vs
  | .placeholder _ :: rest, v :: vs => (d.literal v).toList ++ d.fill rest vs
  | .placeholder text :: rest, [] => text ++ d.fill rest []

/-- A prepared statement in which the placeholder read as the `k`-th gives way to the literal of the
`k`-th value. -/
def substitute (d : Dialect) (sql : String) (vs : List Value) : String :=
  String.ofList (d.fill (d.pieces sql.toList) vs)

end Dialect

/-- A text does not start with a digit, so a number that ends before it ends there. -/
def NoDigitAhead (cs : List Char) : Prop := ∀ c, cs.head? = some c → c.isDigit = false

/-- Nothing stands ahead of the empty text. -/
theorem noDigitAhead_nil : NoDigitAhead [] := by
  intro c h
  cases h

/-- The first character decides. -/
theorem noDigitAhead_cons {c : Char} {cs : List Char} (h : c.isDigit = false) :
    NoDigitAhead (c :: cs) := by
  intro a ha
  cases ha
  exact h

/-- The second text is ahead only where the first is empty. -/
theorem NoDigitAhead.append {xs ys : List Char} (hx : NoDigitAhead xs) (hy : NoDigitAhead ys) :
    NoDigitAhead (xs ++ ys) := by
  cases xs with
  | nil => exact hy
  | cons x xs => exact noDigitAhead_cons (hx x rfl)

namespace Dialect

/-- A word without question marks and dollar signs holds no mark. -/
theorem mark_notMem_word {s : String} (h : '?' ∉ s.toList ∧ '$' ∉ s.toList) (d : Dialect) :
    d.mark ∉ s.toList := by
  cases d with
  | mysql => exact h.1
  | postgres => exact h.2

/-- No mark is a digit. -/
theorem isDigit_mark (d : Dialect) : d.mark.isDigit = false := by
  cases d <;> decide

/-- No mark stands among the decimal digits of a natural number. -/
theorem mark_notMem_toDigits (d : Dialect) (n : Nat) : d.mark ∉ Nat.toDigits 10 n := by
  intro h
  have hd := Nat.isDigit_of_mem_toDigits (by decide) (by decide) h
  rw [d.isDigit_mark] at hd
  cases hd

/-- A number that is followed by no digit is read whole. -/
theorem takeWhile_isDigit_append {ds rest : List Char} (hd : ∀ c ∈ ds, c.isDigit = true)
    (hr : NoDigitAhead rest) : (ds ++ rest).takeWhile Char.isDigit = ds := by
  rw [List.takeWhile_append_of_pos hd]
  cases rest with
  | nil => rw [List.takeWhile_nil, List.append_nil]
  | cons c rest =>
    have hc : c.isDigit = false := hr c rfl
    rw [List.takeWhile_cons_of_neg (by simp [hc]), List.append_nil]

/-- A text without a mark is read character by character. -/
theorem pieces_append_of_notMem {d : Dialect} {xs : List Char} (h : d.mark ∉ xs)
    (rest : List Char) : d.pieces (xs ++ rest) = xs.map .char ++ d.pieces rest := by
  induction xs with
  | nil => rfl
  | cons x xs ih =>
    have hx : x ≠ d.mark := fun he => h (he ▸ List.mem_cons_self)
    have hs : d.startsPlaceholder x (xs ++ rest) = false := by
      simp [startsPlaceholder, hx]
    have hxs : d.mark ∉ xs := fun hm => h (List.mem_cons_of_mem x hm)
    rw [List.cons_append, pieces, hs, ih hxs]
    rfl

/-- A placeholder that is followed by no digit is read as one piece. -/
theorem pieces_placeholder_append (d : Dialect) (position : Nat) {rest : List Char}
    (hr : NoDigitAhead rest) :
    d.pieces ((d.placeholder position).toList ++ rest) =
      .placeholder (d.placeholder position).toList :: d.pieces rest := by
  cases d with
  | mysql =>
    have hp : (placeholder .mysql position).toList = ['?'] := by simp [placeholder]
    rw [hp, List.singleton_append, pieces]
    rfl
  | postgres =>
    have hn : number .postgres (Nat.toDigits 10 position ++ rest) = Nat.toDigits 10 position :=
      takeWhile_isDigit_append
        (fun _ h => Nat.isDigit_of_mem_toDigits (by decide) (by decide) h) hr
    have hp : (placeholder .postgres position).toList = '$' :: Nat.toDigits 10 position := by
      simp [placeholder]
    have hs : startsPlaceholder .postgres '$' (Nat.toDigits 10 position ++ rest) = true := by
      simp only [startsPlaceholder, mark, hn, decide_true, Bool.true_and, Bool.or_eq_true,
        Bool.not_eq_true', List.isEmpty_eq_false_iff]
      exact Or.inr Nat.toDigits_ne_nil
    rw [hp, List.cons_append, pieces, hs, hn, List.drop_left]
    rfl

/-- Where every question mark is a placeholder, counting one counts the other. -/
theorem length_placeholders_mysql (sql : String) :
    (placeholders .mysql sql).length = sql.toList.count '?' := by
  unfold placeholders
  generalize sql.toList = cs
  induction cs with
  | nil => simp [pieces]
  | cons c cs ih =>
    by_cases hc : c = '?'
    · have hs : startsPlaceholder .mysql c cs = true := by simp [startsPlaceholder, mark, hc]
      rw [pieces, hs, if_pos rfl, hc, List.count_cons_self]
      simp only [number, List.length_nil, List.drop_zero, List.filterMap_cons, Piece.placeholder?,
        List.length_cons, ih]
    · have hs : startsPlaceholder .mysql c cs = false := by simp [startsPlaceholder, mark, hc]
      rw [pieces, hs, List.count_cons_of_ne hc]
      simp only [Bool.false_eq_true, ite_false, List.filterMap_cons, Piece.placeholder?, ih]

/-- A text is copied as it is. -/
theorem fill_map_char (d : Dialect) (xs : List Char) (rest : List Piece) (vs : List Value) :
    d.fill (xs.map .char ++ rest) vs = xs ++ d.fill rest vs := by
  induction xs with
  | nil => rfl
  | cons x xs ih => simp only [List.map_cons, List.cons_append, fill, ih]

end Dialect

end SqlAccess
