import Mathlib.Data.List.TakeWhile
import SqlAccess.Proofs.Number.Numeral
import SqlAccess.Proofs.Placeholder.Reading

/-!
# Reading the clause of a window

Each dialect has a small grammar for the clause that cuts a window out of the rows, and gives the
clause a meaning: how many rows are skipped, and how many are kept at most. `Clause` is the grammar
with that meaning, `readClause` reads a text by it, and every window is written as a clause
that reads back.
-/

namespace SqlAccess

open Number

/-- What a clause does to the rows: it skips some and keeps some of the others, or all. -/
structure Cut where
  skip : Nat
  keep : Option Nat
  deriving DecidableEq

/-- The rows that a cut leaves. -/
def Cut.apply {α : Type} (c : Cut) (rows : List α) : List α :=
  match c.keep with
  | none => rows.drop c.skip
  | some n => (rows.drop c.skip).take n

/-- The clauses of a dialect and what they do. -/
inductive Clause : Dialect → List Char → Cut → Prop
  | empty (d : Dialect) : Clause d [] ⟨0, none⟩
  | limit (d : Dialect) {ns : List Char} {n : Nat} (hn : IsNumeral ns n) :
      Clause d (" LIMIT ".toList ++ ns) ⟨0, some n⟩
  /-- The first of two numbers is the one that is skipped. -/
  | pair {os ns : List Char} {o n : Nat} (ho : IsNumeral os o) (hn : IsNumeral ns n) :
      Clause .mysql (" LIMIT ".toList ++ (os ++ ",".toList ++ ns)) ⟨o, some n⟩
  | offset {os : List Char} {o : Nat} (ho : IsNumeral os o) :
      Clause .postgres (" OFFSET ".toList ++ os) ⟨o, none⟩
  | limitOffset {ns os : List Char} {n o : Nat} (hn : IsNumeral ns n) (ho : IsNumeral os o) :
      Clause .postgres (" LIMIT ".toList ++ (ns ++ " OFFSET ".toList ++ os)) ⟨o, some n⟩

/-! ## Numbers behind words -/

/-- Reads the number at the front, and answers the rest. -/
def leadingNumber (cs : List Char) : Option (Nat × List Char) :=
  if (cs.takeWhile Char.isDigit).isEmpty then none
  else some (Nat.ofDigitChars 10 (cs.takeWhile Char.isDigit) 0, cs.dropWhile Char.isDigit)

/-- Reads a word and the number behind it, and answers the rest. -/
def numberAfter (word : String) (cs : List Char) : Option (Nat × List Char) :=
  if word.toList.isPrefixOf cs then leadingNumber (cs.drop word.toList.length) else none

/-- What stands behind all the digits does not start with one. -/
private theorem noDigitAhead_dropWhile (cs : List Char) :
    NoDigitAhead (cs.dropWhile Char.isDigit) := by
  intro c hc
  have h := List.head?_dropWhile_not Char.isDigit cs
  rwa [hc] at h

/-- A number is read whole, and nothing else is. -/
theorem leadingNumber_eq_some_iff {cs rest : List Char} {n : Nat} :
    leadingNumber cs = some (n, rest) ↔
      ∃ ds, IsNumeral ds n ∧ NoDigitAhead rest ∧ cs = ds ++ rest := by
  unfold leadingNumber
  constructor
  · intro h
    split at h
    · cases h
    · rename_i hne
      obtain ⟨rfl, rfl⟩ := Prod.mk.inj (Option.some.inj h)
      refine ⟨cs.takeWhile Char.isDigit, ⟨?_, fun c hc => List.mem_takeWhile_imp hc, rfl⟩,
        noDigitAhead_dropWhile cs, List.takeWhile_append_dropWhile.symm⟩
      exact fun h => hne (List.isEmpty_iff.mpr h)
  · rintro ⟨ds, hds, hrest, rfl⟩
    have htake : (ds ++ rest).takeWhile Char.isDigit = ds :=
      Dialect.takeWhile_isDigit_append hds.digits hrest
    have hsplit := List.takeWhile_append_dropWhile (p := Char.isDigit) (l := ds ++ rest)
    rw [htake, List.append_cancel_left_eq] at hsplit
    rw [htake, hsplit, hds.value, if_neg (fun h => hds.ne_nil (List.isEmpty_iff.mp h))]

/-- So is a number behind a word. -/
theorem numberAfter_eq_some_iff {word : String} {cs rest : List Char} {n : Nat} :
    numberAfter word cs = some (n, rest) ↔
      ∃ ds, IsNumeral ds n ∧ NoDigitAhead rest ∧ cs = word.toList ++ (ds ++ rest) := by
  unfold numberAfter
  constructor
  · intro h
    split at h
    · rename_i hword
      obtain ⟨tail, rfl⟩ := List.isPrefixOf_iff_prefix.mp hword
      rw [List.drop_left] at h
      obtain ⟨ds, hds, hrest, rfl⟩ := leadingNumber_eq_some_iff.mp h
      exact ⟨ds, hds, hrest, rfl⟩
    · cases h
  · rintro ⟨ds, hds, hrest, rfl⟩
    rw [if_pos (List.isPrefixOf_iff_prefix.mpr (List.prefix_append _ _)), List.drop_left]
    exact leadingNumber_eq_some_iff.mpr ⟨ds, hds, hrest, rfl⟩

/-- Reads a word and a number to the end. -/
def numberToEnd (word : String) (cs : List Char) : Option Nat :=
  match numberAfter word cs with
  | some (n, []) => some n
  | _ => none

/-- A number is read behind a word exactly if nothing but the word and its digits is there. -/
theorem numberToEnd_eq_some_iff {word : String} {cs : List Char} {n : Nat} :
    numberToEnd word cs = some n ↔ ∃ ds, IsNumeral ds n ∧ cs = word.toList ++ ds := by
  have h : numberToEnd word cs = some n ↔ numberAfter word cs = some (n, []) := by
    unfold numberToEnd
    split
    · rename_i m heq
      simp [heq]
    · rename_i hne
      simpa using hne n
  rw [h, numberAfter_eq_some_iff]
  simp only [noDigitAhead_nil, true_and, List.append_nil]

/-! ## Clauses -/

/-- Reads the clause of a dialect to the end. -/
def Dialect.readClause (d : Dialect) (cs : List Char) : Option Cut :=
  if cs.isEmpty then some ⟨0, none⟩
  else
    match d, numberAfter " LIMIT " cs with
    | _, some (n, []) => some ⟨0, some n⟩
    | .mysql, some (o, rest) => (numberToEnd "," rest).map fun n => ⟨o, some n⟩
    | .postgres, some (n, rest) => (numberToEnd " OFFSET " rest).map fun o => ⟨o, some n⟩
    | .mysql, none => none
    | .postgres, none => (numberToEnd " OFFSET " cs).map fun o => ⟨o, none⟩

/-- A clause is read as what it means. -/
theorem Clause.readClause_eq {d : Dialect} {cs : List Char} {c : Cut} (h : Clause d cs c) :
    d.readClause cs = some c := by
  unfold Dialect.readClause
  cases h with
  | empty => rfl
  | @limit _ ns n hn =>
    have hread : numberAfter " LIMIT " (" LIMIT ".toList ++ ns) = some (n, []) :=
      numberAfter_eq_some_iff.mpr ⟨ns, hn, noDigitAhead_nil, by rw [List.append_nil]⟩
    rw [if_neg (by simp), hread]
  | @pair os ns o n ho hn =>
    have hread : numberAfter " LIMIT " (" LIMIT ".toList ++ (os ++ ",".toList ++ ns)) =
        some (o, ",".toList ++ ns) :=
      numberAfter_eq_some_iff.mpr
        ⟨os, ho, noDigitAhead_cons (c := ',') rfl, by rw [List.append_assoc]⟩
    have hend : numberToEnd "," (",".toList ++ ns) = some n :=
      numberToEnd_eq_some_iff.mpr ⟨ns, hn, rfl⟩
    rw [if_neg (by simp), hread]
    exact congrArg (Option.map fun n => (⟨o, some n⟩ : Cut)) hend
  | @offset os o ho =>
    have hend : numberToEnd " OFFSET " (" OFFSET ".toList ++ os) = some o :=
      numberToEnd_eq_some_iff.mpr ⟨os, ho, rfl⟩
    have hread : numberAfter " LIMIT " (" OFFSET ".toList ++ os) = none := rfl
    rw [if_neg (by simp), hread]
    exact congrArg (Option.map fun o => (⟨o, none⟩ : Cut)) hend
  | @limitOffset ns os n o hn ho =>
    have hread : numberAfter " LIMIT " (" LIMIT ".toList ++ (ns ++ " OFFSET ".toList ++ os)) =
        some (n, " OFFSET ".toList ++ os) :=
      numberAfter_eq_some_iff.mpr
        ⟨ns, hn, noDigitAhead_cons (c := ' ') rfl, by rw [List.append_assoc]⟩
    have hend : numberToEnd " OFFSET " (" OFFSET ".toList ++ os) = some o :=
      numberToEnd_eq_some_iff.mpr ⟨os, ho, rfl⟩
    rw [if_neg (by simp), hread]
    exact congrArg (Option.map fun o => (⟨o, some n⟩ : Cut)) hend

/-- Nothing else is read. -/
theorem Clause.of_readClause {d : Dialect} {cs : List Char} {c : Cut}
    (h : d.readClause cs = some c) : Clause d cs c := by
  unfold Dialect.readClause at h
  split at h
  · rename_i hempty
    cases List.isEmpty_iff.mp hempty
    cases h
    exact .empty d
  · split at h
    · rename_i n heq
      obtain ⟨ns, hns, -, rfl⟩ := numberAfter_eq_some_iff.mp heq
      cases h
      rw [List.append_nil]
      exact .limit _ hns
    · rename_i o rest _ heq
      obtain ⟨os, hos, -, rfl⟩ := numberAfter_eq_some_iff.mp heq
      obtain ⟨n, hn, rfl⟩ := Option.map_eq_some_iff.mp h
      obtain ⟨ns, hns, rfl⟩ := numberToEnd_eq_some_iff.mp hn
      rw [← List.append_assoc os]
      exact .pair hos hns
    · rename_i n rest _ heq
      obtain ⟨ns, hns, -, rfl⟩ := numberAfter_eq_some_iff.mp heq
      obtain ⟨o, ho, rfl⟩ := Option.map_eq_some_iff.mp h
      obtain ⟨os, hos, rfl⟩ := numberToEnd_eq_some_iff.mp ho
      rw [← List.append_assoc ns]
      exact .limitOffset hns hos
    · cases h
    · obtain ⟨o, ho, rfl⟩ := Option.map_eq_some_iff.mp h
      obtain ⟨os, hos, rfl⟩ := numberToEnd_eq_some_iff.mp ho
      exact .offset hos

/-- Reading a clause decides the grammar. -/
theorem Dialect.readClause_eq_some_iff {d : Dialect} {cs : List Char} {c : Cut} :
    d.readClause cs = some c ↔ Clause d cs c :=
  ⟨Clause.of_readClause, Clause.readClause_eq⟩

end SqlAccess
