import Mathlib.Algebra.Order.BigOperators.Group.List
import Mathlib.Algebra.Order.Ring.Nat
import SqlAccess.Proofs.Bulk.Chunks
import SqlAccess.Proofs.Lexical.Splitting

/-!
# Planned inserts keep every row

The statements of a planned insert, read back one after another, hold the given rows in the
given order, each as the literals of its values. Each statement takes as many tuples as the longest
one allows within the budget, and only the last may take fewer. A plan is refused for the lack of
columns, or for the first row that has not one value for each column.
-/

namespace SqlAccess

/-- The number of bytes of the longest text, zero if there is none. -/
def longestBytes (texts : List String) : Nat := (texts.map String.utf8ByteSize).max?.getD 0

/-- The number of texts that fit a budget of bytes if all are as long as the longest, at least
one. -/
def fittingTexts (budget : Nat) (texts : List String) : Nat := max 1 (budget / longestBytes texts)

/-- Pieces into which texts are packed for a budget of bytes. -/
structure Packed (budget : Nat) (pieces : List (List String)) : Prop where
  /-- There are as many pieces as it takes, the quotient rounded up. -/
  length_eq : pieces.length =
    (pieces.flatten.length + fittingTexts budget pieces.flatten - 1) /
      fittingTexts budget pieces.flatten
  /-- All pieces but the last are full. -/
  full : ∀ piece ∈ pieces.dropLast, piece.length = fittingTexts budget pieces.flatten
  /-- No piece is empty, and none is more than full. -/
  bounds : ∀ piece ∈ pieces,
    1 ≤ piece.length ∧ piece.length ≤ fittingTexts budget pieces.flatten
  /-- A piece keeps to the budget if the longest text does. -/
  within : longestBytes pieces.flatten ≤ budget →
    ∀ piece ∈ pieces, (piece.map String.utf8ByteSize).sum ≤ budget

/-- Nothing is packed into no pieces. -/
theorem packed_nil (budget : Nat) : Packed budget [] where
  length_eq := by
    have hfit : 1 ≤ fittingTexts budget [] := Nat.le_max_left _ _
    rw [List.flatten_nil, List.length_nil, List.length_nil, Nat.zero_add,
      Nat.div_eq_of_lt (by omega)]
  full := fun _ hp => absurd hp List.not_mem_nil
  bounds := fun _ hp => absurd hp List.not_mem_nil
  within := fun _ _ hp => absurd hp List.not_mem_nil

/-- No text is longer than the longest. -/
theorem utf8ByteSize_le_longestBytes {texts : List String} {t : String} (h : t ∈ texts) :
    t.utf8ByteSize ≤ longestBytes texts := by
  have hm : t.utf8ByteSize ∈ texts.map String.utf8ByteSize := List.mem_map_of_mem h
  unfold longestBytes
  cases hmax : (texts.map String.utf8ByteSize).max? with
  | none =>
    rw [List.max?_eq_none_iff] at hmax
    rw [hmax] at hm
    cases hm
  | some longest => exact (List.max?_eq_some_iff.mp hmax).2 _ hm

/-- As many texts as fit a budget do not exceed it. -/
theorem sum_le_of_length_le {budget : Nat} {texts piece : List String} (hsub : piece ⊆ texts)
    (hlen : piece.length ≤ fittingTexts budget texts) (hbudget : longestBytes texts ≤ budget) :
    (piece.map String.utf8ByteSize).sum ≤ budget := by
  have hle : ∀ n ∈ piece.map String.utf8ByteSize, n ≤ longestBytes texts := by
    intro n hn
    obtain ⟨t, ht, rfl⟩ := List.mem_map.mp hn
    exact utf8ByteSize_le_longestBytes (hsub ht)
  have hfit : fittingTexts budget texts * longestBytes texts ≤ budget := by
    unfold fittingTexts
    rcases Nat.le_total 1 (budget / longestBytes texts) with h | h
    · rw [Nat.max_eq_right h]
      exact Nat.div_mul_le_self budget (longestBytes texts)
    · rw [Nat.max_eq_left h, Nat.one_mul]
      exact hbudget
  calc
    (piece.map String.utf8ByteSize).sum
        ≤ (piece.map String.utf8ByteSize).length • longestBytes texts :=
      List.sum_le_card_nsmul _ _ hle
    _ = piece.length * longestBytes texts := by rw [List.length_map]; rfl
    _ ≤ fittingTexts budget texts * longestBytes texts := Nat.mul_le_mul_right _ hlen
    _ ≤ budget := hfit

namespace BulkInsert

/-- The longest text is found from left to right. -/
theorem longest_eq (texts : List String) : longest texts = longestBytes texts := by
  cases texts with
  | nil => rfl
  | cons t texts =>
    rw [longestBytes, List.map_cons, List.max?_cons', Option.getD_some, longest, List.map_cons,
      List.foldl_cons, Nat.zero_max]

/-- Where there are bytes to write, the width of statements is the number of texts that fit. -/
theorem rowsPerStatement_eq {texts : List String} (budget : Nat) (h : 0 < longestBytes texts) :
    rowsPerStatement budget (longest texts) = fittingTexts budget texts := by
  rw [rowsPerStatement, fittingTexts, longest_eq, Nat.max_eq_left h, Nat.max_comm]

/-- The pieces of texts with something in them are packed. -/
theorem packed_chunks (budget : Nat) {texts : List String} (h : ∀ t ∈ texts, 0 < t.utf8ByteSize) :
    Packed budget (chunks (rowsPerStatement budget (longest texts)) texts) := by
  by_cases hne : texts = []
  · subst hne
    rw [chunks]
    exact packed_nil budget
  · obtain ⟨t, ht⟩ := List.exists_mem_of_ne_nil texts hne
    have hlong : 0 < longestBytes texts := (h t ht).trans_le (utf8ByteSize_le_longestBytes ht)
    have hfit : 1 ≤ fittingTexts budget texts := Nat.le_max_left _ _
    have hflat := flatten_chunks (fittingTexts budget texts) texts
    rw [rowsPerStatement_eq budget hlong]
    refine ⟨?_, ?_, ?_, ?_⟩
    · rw [hflat, length_chunks hfit, Nat.add_sub_assoc hfit]
    · rw [hflat]
      exact fun piece hp => length_of_mem_dropLast_chunks hfit hp
    · rw [hflat]
      exact fun piece hp => length_of_mem_chunks hfit hp
    · rw [hflat]
      intro hbudget piece hp
      have hsub : piece ⊆ texts := by
        intro s hs
        rw [← hflat]
        exact List.mem_flatten_of_mem hp hs
      exact sum_le_of_length_le hsub (length_of_mem_chunks hfit hp).2 hbudget

/-- No tuple is empty. -/
private theorem utf8ByteSize_tuple_pos (d : Dialect) (row : List Value) :
    0 < (tuple d row).utf8ByteSize := by
  rw [tuple, String.append_assoc, String.utf8ByteSize_append]
  exact Nat.lt_add_right _ (by decide)

/-- Rows of the right width are written one after another. -/
theorem tuplesFrom_eq_ok {d : Dialect} {width : Nat} {rows : List (List Value)}
    (h : ∀ row ∈ rows, row.length = width) (index : Nat) :
    tuplesFrom d width index rows = .ok (rows.map (tuple d)) := by
  induction rows generalizing index with
  | nil => rfl
  | cons row rows ih =>
    obtain ⟨hrow, hrows⟩ := List.forall_mem_cons.mp h
    rw [tuplesFrom, if_pos hrow, ih hrows]
    rfl

/-- The first row of a wrong width is the one that is refused. -/
theorem tuplesFrom_eq_error {d : Dialect} {width : Nat} {before after : List (List Value)}
    {row : List Value} (h : ∀ r ∈ before, r.length = width) (hrow : row.length ≠ width)
    (index : Nat) :
    tuplesFrom d width index (before ++ row :: after) =
      .error (badRow (index + before.length) row.length width) := by
  induction before generalizing index with
  | nil =>
    rw [List.nil_append, tuplesFrom, if_neg hrow]
    rfl
  | cons r before ih =>
    obtain ⟨hr, hbefore⟩ := List.forall_mem_cons.mp h
    rw [List.cons_append, tuplesFrom, if_pos hr, ih hbefore, List.length_cons, Nat.add_assoc,
      Nat.add_comm 1]
    rfl

/-- All rows have the right width, or there is a first one that has not. -/
theorem forall_length_eq_or_exists_first (width : Nat) (rows : List (List Value)) :
    (∀ row ∈ rows, row.length = width) ∨
      ∃ before row after, rows = before ++ row :: after ∧ (∀ r ∈ before, r.length = width) ∧
        row.length ≠ width := by
  cases hfind : rows.find? (fun row => row.length ≠ width) with
  | none =>
    refine .inl fun row hrow => ?_
    simpa using List.find?_eq_none.mp hfind row hrow
  | some row =>
    obtain ⟨hrow, before, after, rfl, hbefore⟩ := List.find?_eq_some_iff_append.mp hfind
    refine .inr ⟨before, row, after, rfl, fun r hr => ?_, by simpa using hrow⟩
    simpa using hbefore r hr

/-- Why an insert cannot be planned. -/
inductive Refused (b : BulkInsert) : DbError → Prop
  /-- There is no column. -/
  | columns (h : b.columns = []) :
    Refused b (.validation "bulk insert needs at least one column")
  /-- The first row that has not one value for each column is reported. -/
  | row (before : List (List Value)) (row : List Value) (after : List (List Value))
    (hcolumns : b.columns ≠ []) (hrows : b.rows = before ++ row :: after)
    (hbefore : ∀ r ∈ before, r.length = b.columns.length)
    (hrow : row.length ≠ b.columns.length) :
    Refused b (.validation ("row " ++ toString before.length ++ " has " ++ toString row.length ++
      " values, expected " ++ toString b.columns.length))

/-- What is refused is not planned. -/
theorem planFor_eq_error {b : BulkInsert} {e : DbError} (h : b.Refused e) (d : Dialect) :
    b.planFor d = .error e := by
  cases h with
  | columns h => rw [planFor, h]; rfl
  | row before row after hcolumns hrows hbefore hrow =>
    rw [planFor, if_neg (by simpa using hcolumns), hrows, tuplesFrom_eq_error hbefore hrow,
      Nat.zero_add]
    rfl

/-- What is not refused is planned. -/
theorem planFor_eq_ok {b : BulkInsert} (hcolumns : b.columns ≠ [])
    (hrows : ∀ row ∈ b.rows, row.length = b.columns.length) (d : Dialect) :
    b.planFor d = .ok ((chunks (rowsPerStatement b.byteBudget (longest (b.rows.map (tuple d))))
      (b.rows.map (tuple d))).map fun piece => b.head ++ Text.joinWith "," piece) := by
  rw [planFor, if_neg (by simpa using hcolumns), tuplesFrom_eq_ok hrows]
  rfl

/-- A plan is refused for no other reason. -/
theorem planFor_eq_error_iff {b : BulkInsert} {d : Dialect} {e : DbError} :
    b.planFor d = .error e ↔ b.Refused e := by
  constructor
  · intro h
    by_cases hcolumns : b.columns = []
    · have hr := Refused.columns hcolumns
      rw [planFor_eq_error hr] at h
      cases h
      exact hr
    · rcases forall_length_eq_or_exists_first b.columns.length b.rows with
        hrows | ⟨before, row, after, hrows, hbefore, hrow⟩
      · rw [planFor_eq_ok hcolumns hrows] at h
        cases h
      · have hr := Refused.row before row after hcolumns hrows hbefore hrow
        rw [planFor_eq_error hr] at h
        cases h
        exact hr
  · intro h
    exact planFor_eq_error h d

/-- A plan is refused exactly when there are no columns or some row has a wrong width. -/
theorem exists_refused_iff {b : BulkInsert} :
    (∃ e, b.Refused e) ↔ b.columns = [] ∨ ∃ row ∈ b.rows, row.length ≠ b.columns.length := by
  constructor
  · rintro ⟨e, h⟩
    cases h with
    | columns h => exact .inl h
    | row before row after hcolumns hrows hbefore hrow =>
      refine .inr ⟨row, ?_, hrow⟩
      rw [hrows]
      exact List.mem_append_right before List.mem_cons_self
  · intro h
    by_cases hcolumns : b.columns = []
    · exact ⟨_, .columns hcolumns⟩
    · obtain ⟨bad, hbad, hne⟩ := h.resolve_left hcolumns
      rcases forall_length_eq_or_exists_first b.columns.length b.rows with
        hrows | ⟨before, row, after, hrows, hbefore, hrow⟩
      · exact absurd (hrows bad hbad) hne
      · exact ⟨_, .row before row after hcolumns hrows hbefore hrow⟩

/-- The literals of a row are items. -/
private theorem holds_of_mem_map_literal {d : Dialect} {row : List Value} :
    ∀ s ∈ row.map d.literal, d.Holds s :=
  List.forall_mem_map.mpr fun v _ => d.holds_literal v

/-- Splitting what stands behind the head of a statement gives its tuples. -/
theorem outerParts_piece (d : Dialect) (rows : List (List Value)) {piece : List String}
    (hne : piece ≠ []) (hsub : piece ⊆ rows.map (tuple d)) :
    d.outerParts (Text.joinWith "," piece) = some piece := by
  have htuple : ∀ t ∈ piece, d.Reads t.toList (d.lexemes t) ∧ Enclosed (d.lexemes t) := by
    intro t ht
    obtain ⟨row, -, rfl⟩ := List.mem_map.mp (hsub ht)
    exact Dialect.enclosed_tuple holds_of_mem_map_literal rfl
  exact Dialect.outerParts_joinWith hne (fun t ht => (htuple t ht).1) fun t ht => (htuple t ht).2

/-- Splitting a tuple gives the literals of its row. -/
private theorem tupleParts_tuple {d : Dialect} {row : List Value} (hne : row ≠ []) :
    d.tupleParts (tuple d row) = some (row.map d.literal) :=
  Dialect.tupleParts_joinWith (by simpa using hne) holds_of_mem_map_literal

/-- Planned inserts lose, duplicate and reorder nothing. With columns, and in each row one value for
each, every statement starts with the same head; what stands behind the heads, split at its outer
commas, gives the tuples of the rows in order, packed for the budget; and each tuple, split at its
own commas, gives the literals of the values of its row. Nothing is planned exactly when there are
no columns or some row has a wrong number of values, and the first such row is the one reported. -/
theorem plan_keeps_rows (b : BulkInsert) (d : Dialect) :
    (b.columns ≠ [] → (∀ row ∈ b.rows, row.length = b.columns.length) →
      ∃ (texts : List String) (pieces : List (List String)),
        b.planFor d = .ok (texts.map fun text =>
          "INSERT INTO " ++ b.table ++ " (" ++ Text.joinWith ", " b.columns ++ ") VALUES " ++
            text) ∧
        texts.map d.outerParts = pieces.map some ∧
        pieces.flatten = b.rows.map (tuple d) ∧
        pieces.flatten.map d.tupleParts = b.rows.map (fun row => some (row.map d.literal)) ∧
        Packed b.byteBudget pieces) ∧
    (∀ e, b.planFor d = .error e ↔ b.Refused e) ∧
    ((∃ e, b.planFor d = .error e) ↔
      b.columns = [] ∨ ∃ row ∈ b.rows, row.length ≠ b.columns.length) := by
  refine ⟨?_, ?_, ?_⟩
  · intro hcolumns hrows
    have hpos : ∀ t ∈ b.rows.map (tuple d), 0 < t.utf8ByteSize :=
      List.forall_mem_map.mpr fun row _ => utf8ByteSize_tuple_pos d row
    have hpacked := packed_chunks b.byteBudget hpos
    have hplan := planFor_eq_ok hcolumns hrows d
    have hflat := flatten_chunks
      (rowsPerStatement b.byteBudget (longest (b.rows.map (tuple d)))) (b.rows.map (tuple d))
    generalize chunks _ _ = pieces at hpacked hplan hflat
    refine ⟨pieces.map (Text.joinWith ","), pieces, ?_, ?_, hflat, ?_, hpacked⟩
    · rw [hplan, List.map_map]
      rfl
    · rw [List.map_map]
      refine List.map_congr_left fun piece hp => outerParts_piece d b.rows ?_ ?_
      · exact List.ne_nil_of_length_pos (hpacked.bounds piece hp).1
      · intro t ht
        rw [← hflat]
        exact List.mem_flatten_of_mem hp ht
    · rw [hflat, List.map_map]
      refine List.map_congr_left fun row hrow => tupleParts_tuple ?_
      rintro rfl
      exact hcolumns (List.length_eq_zero_iff.mp (hrows [] hrow).symm)
  · intro e
    exact planFor_eq_error_iff
  · rw [← exists_refused_iff]
    exact exists_congr fun e => planFor_eq_error_iff

/-- Three rows whose texts hold what separates tuples, two to a statement. -/
def separatorRows : BulkInsert where
  table := "t"
  columns := ["id", "name"]
  rows := [[.int 1, .text "a'),('b"], [.null, .text "\\, 2"],
    [.bool true, .list [.text "(", .list []]]]
  byteBudget := 40

set_option maxRecDepth 8000 in
/-- The rows are read back from two statements. -/
theorem separatorRows_kept :
    separatorRows.columns ≠ [] ∧
    (∀ row ∈ separatorRows.rows, row.length = separatorRows.columns.length) ∧
    ∃ (texts : List String) (pieces : List (List String)),
      separatorRows.planFor .mysql =
        .ok (texts.map fun text => "INSERT INTO t (id, name) VALUES " ++ text) ∧
      texts.map (Dialect.outerParts .mysql) = pieces.map some ∧
      pieces.flatten.map (Dialect.tupleParts .mysql) =
        [some ["1", "'a\\'),(\\'b'"], some ["NULL", "'\\\\, 2'"], some ["1", "('(',())"]] ∧
      pieces.length = 2 := by
  have hcolumns : separatorRows.columns ≠ [] := by decide
  have hrows : ∀ row ∈ separatorRows.rows, row.length = separatorRows.columns.length := by decide
  obtain ⟨hkept, -, -⟩ := plan_keeps_rows separatorRows .mysql
  obtain ⟨texts, pieces, hplan, houter, hflat, hparts, hpacked⟩ := hkept hcolumns hrows
  have hfit : fittingTexts 40 (separatorRows.rows.map (tuple .mysql)) = 2 := rfl
  have hlen := hpacked.length_eq
  have hbudget : separatorRows.byteBudget = 40 := rfl
  rw [hflat, hbudget, hfit] at hlen
  exact ⟨hcolumns, hrows, texts, pieces, hplan, houter, hparts, hlen⟩

end BulkInsert

end SqlAccess
