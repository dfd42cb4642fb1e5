import Mathlib.Algebra.Order.Ring.Nat
import SqlAccess.Proofs.Window.Clause
import SqlAccess.Statement.Select

/-!
# Windows and pages

Both dialects cut the same rows out for a window, as long as there are no more rows than a word can
count: one of them writes the largest count where no limit is wanted. Pages are windows one behind
the other, so the first pages together are the first rows. A page whose offset no word can
hold starts at the largest word, which is behind all the rows.
-/

namespace SqlAccess

open Number

/-- The rows a window asks for. -/
def Window.rows {α : Type} (w : Window) (rows : List α) : List α :=
  let rest := rows.drop ((w.offset.map UInt64.toNat).getD 0)
  match w.limit with
  | none => rest
  | some n => rest.take n.toNat

/-- The cut a dialect writes for a window. -/
def Dialect.cut (d : Dialect) (w : Window) : Cut where
  skip := (w.offset.map UInt64.toNat).getD 0
  keep :=
    match d, w.limit, w.offset with
    | _, some n, _ => some n.toNat
    | .mysql, none, some _ => some 18446744073709551615
    | _, none, _ => none

/-- Every window is written as a clause of its dialect. -/
theorem Dialect.clause_window (d : Dialect) (w : Window) :
    Clause d (d.window w).toList (d.cut w) := by
  obtain ⟨limit, offset⟩ := w
  cases d with
  | mysql =>
    cases limit with
    | none =>
      cases offset with
      | none => exact .empty .mysql
      | some o =>
        have hmax : IsNumeral "18446744073709551615".toList 18446744073709551615 :=
          isNumeral_toDigits 18446744073709551615
        simpa [window, cut] using Clause.pair (isNumeral_toDigits o.toNat) hmax
    | some n =>
      cases offset with
      | none => simpa [window, cut] using Clause.limit .mysql (isNumeral_toDigits n.toNat)
      | some o =>
        simpa [window, cut] using
          Clause.pair (isNumeral_toDigits o.toNat) (isNumeral_toDigits n.toNat)
  | postgres =>
    cases limit with
    | none =>
      cases offset with
      | none => exact .empty .postgres
      | some o => simpa [window, cut] using Clause.offset (isNumeral_toDigits o.toNat)
    | some n =>
      cases offset with
      | none => simpa [window, cut] using Clause.limit .postgres (isNumeral_toDigits n.toNat)
      | some o =>
        simpa [window, cut] using
          Clause.limitOffset (isNumeral_toDigits n.toNat) (isNumeral_toDigits o.toNat)

/-- The clause of a window is read as its cut. -/
theorem Dialect.readClause_window (d : Dialect) (w : Window) :
    d.readClause (d.window w).toList = some (d.cut w) :=
  (d.clause_window w).readClause_eq

/-- No limit is written as none, or as the largest word. -/
theorem Dialect.keep_mysql_cut (w : Window) :
    (cut .mysql w).keep = (cut .postgres w).keep ∨
      (cut .mysql w).keep = some 18446744073709551615 ∧ (cut .postgres w).keep = none := by
  obtain ⟨limit, offset⟩ := w
  cases limit with
  | some n => exact .inl rfl
  | none =>
    cases offset with
    | none => exact .inl rfl
    | some o => exact .inr ⟨rfl, rfl⟩

/-- In one dialect the cut is the window for any rows. -/
theorem Dialect.apply_postgres_cut {α : Type} (w : Window) (rows : List α) :
    (cut .postgres w).apply rows = w.rows rows := by
  obtain ⟨limit, offset⟩ := w
  cases limit <;> rfl

/-- In both it is for rows that a word can count. -/
theorem Dialect.apply_cut {α : Type} (d : Dialect) (w : Window) {rows : List α}
    (h : rows.length < 2 ^ 64) : (d.cut w).apply rows = w.rows rows := by
  cases d with
  | postgres => exact apply_postgres_cut w rows
  | mysql =>
    rw [← apply_postgres_cut]
    unfold Cut.apply
    obtain heq | ⟨hmax, hnone⟩ := keep_mysql_cut w
    · rw [heq]
      rfl
    · rw [hmax, hnone]
      refine List.take_of_length_le ?_
      rw [List.length_drop]
      omega

/-! ## Pages -/

/-- A size of zero counts as one. -/
theorem Window.toNat_max_one (n : UInt64) : (max n 1).toNat = max n.toNat 1 := by
  rw [show max n 1 = if n ≤ 1 then 1 else n from rfl]
  split
  · rename_i h
    have : n.toNat ≤ 1 := h
    simp
    omega
  · rename_i h
    have : ¬n.toNat ≤ 1 := h
    omega

/-- A number beyond the largest word stays at the largest word. -/
theorem Window.toNat_saturated (n : Nat) :
    (UInt64.ofNat (min n (UInt64.size - 1))).toNat = min n (2 ^ 64 - 1) :=
  UInt64.toNat_ofNat_of_lt' (Nat.lt_of_le_of_lt (Nat.min_le_right _ _) (by decide))

/-- The clause of a page, in either dialect: pages count from one, and the offset stays at the
largest word. -/
theorem Select.readClause_page (q : Select) (d : Dialect) (page size : UInt64) :
    d.readClause (d.window (q.call (.page page size)).window).toList =
      some ⟨min ((page.toNat - 1) * max size.toNat 1) (2 ^ 64 - 1), some (max size.toNat 1)⟩ := by
  have hpage : max page.toNat 1 - 1 = page.toNat - 1 := by omega
  rw [Dialect.readClause_window]
  simp only [Dialect.cut, Select.call, Window.ofPage, Option.map_some, Option.getD_some,
    Window.toNat_saturated, Window.toNat_max_one, hpage]

/-- Cuts of one size, one behind the other, leave the first rows. -/
theorem Cut.flatMap_apply_range {α : Type} (rows : List α) (size k : Nat) :
    ((List.range k).flatMap fun i => (⟨i * size, some size⟩ : Cut).apply rows) =
      rows.take (k * size) := by
  induction k with
  | zero => simp
  | succ k ih =>
    calc ((List.range (k + 1)).flatMap fun i => (⟨i * size, some size⟩ : Cut).apply rows)
        = rows.take (k * size) ++ (rows.drop (k * size)).take size := by
          rw [List.range_succ, List.flatMap_append, ih, List.flatMap_singleton]
          rfl
      _ = rows.take ((k + 1) * size) := by rw [← List.take_add, Nat.succ_mul]

/-- A cut that skips all the rows leaves none. -/
theorem Cut.apply_eq_nil {α : Type} {c : Cut} {rows : List α} (h : rows.length ≤ c.skip) :
    c.apply rows = [] := by
  unfold apply
  cases c.keep with
  | none => exact List.drop_eq_nil_of_le h
  | some n => simp only [List.drop_eq_nil_of_le h, List.take_nil]

/-- The clauses of the first pages, as long as no offset is too large for a word. -/
theorem Select.readClause_pages (q : Select) (d : Dialect) {size k : UInt64}
    (h : (k.toNat - 1) * max size.toNat 1 < 2 ^ 64) :
    ((List.range k.toNat).map fun i =>
      d.readClause (d.window (q.call (.page (.ofNat (i + 1)) size)).window).toList) =
      ((List.range k.toNat).map fun i =>
        (⟨i * max size.toNat 1, some (max size.toNat 1)⟩ : Cut)).map some := by
  rw [List.map_map]
  refine List.map_congr_left fun i hi => ?_
  have hik : i < k.toNat := List.mem_range.mp hi
  have hpage : (UInt64.ofNat (i + 1)).toNat = i + 1 :=
    UInt64.toNat_ofNat_of_lt' (Nat.lt_of_le_of_lt hik k.toNat_lt)
  have hoffset : i * max size.toNat 1 ≤ (k.toNat - 1) * max size.toNat 1 :=
    Nat.mul_le_mul_right _ (by omega)
  rw [Select.readClause_page, hpage, Nat.add_sub_cancel, Nat.min_eq_left (by omega)]
  rfl

/-- Both dialects read the clause of a window as the same cut, which leaves the window's rows. The
first pages, in either dialect, leave the first rows, each once, and a page whose offset no word
can hold leaves none. -/
theorem windows_agree_and_pages_tile :
    (∀ w : Window, ∃ m p : Cut,
      Dialect.readClause .mysql (Dialect.window .mysql w).toList = some m ∧
      Dialect.readClause .postgres (Dialect.window .postgres w).toList = some p ∧
      m.skip = p.skip ∧
      (m.keep = p.keep ∨ m.keep = some 18446744073709551615 ∧ p.keep = none) ∧
      ∀ {α : Type} (rows : List α), rows.length < 2 ^ 64 →
        m.apply rows = w.rows rows ∧ p.apply rows = w.rows rows) ∧
    ∀ (q : Select) (d : Dialect) (size : UInt64) {α : Type} (rows : List α),
      rows.length < 2 ^ 64 →
      (∀ k : UInt64, 1 ≤ k.toNat → (k.toNat - 1) * max size.toNat 1 < 2 ^ 64 →
        ∃ cuts : List Cut,
          ((List.range k.toNat).map fun i =>
            d.readClause (d.window (q.call (.page (.ofNat (i + 1)) size)).window).toList) =
              cuts.map some ∧
          cuts.flatMap (Cut.apply · rows) = rows.take (k.toNat * max size.toNat 1)) ∧
      ∀ page : UInt64, 2 ^ 64 ≤ (page.toNat - 1) * max size.toNat 1 →
        ∃ c, d.readClause (d.window (q.call (.page page size)).window).toList = some c ∧
          c.apply rows = [] := by
  refine ⟨fun w => ?_, fun q d size α rows hrows => ⟨fun k _ hfits => ?_, fun page hbeyond => ?_⟩⟩
  · exact ⟨_, _, Dialect.readClause_window .mysql w, Dialect.readClause_window .postgres w, rfl,
      Dialect.keep_mysql_cut w, fun rows h =>
        ⟨Dialect.apply_cut .mysql w h, Dialect.apply_cut .postgres w h⟩⟩
  · refine ⟨_, q.readClause_pages d hfits, ?_⟩
    rw [List.flatMap_map]
    exact Cut.flatMap_apply_range rows _ _
  · refine ⟨_, q.readClause_page d page size, Cut.apply_eq_nil ?_⟩
    show rows.length ≤ min _ _
    rw [Nat.min_eq_right (by omega)]
    omega

/-- Five rows: a window without a limit leaves the last three, two pages of two rows leave the first
four, and the third page of the largest size leaves none. -/
theorem fiveRows_tile :
    (∃ m p : Cut,
      Dialect.readClause .mysql (Dialect.window .mysql ⟨none, some 2⟩).toList = some m ∧
      Dialect.readClause .postgres (Dialect.window .postgres ⟨none, some 2⟩).toList = some p ∧
      m.apply [1, 2, 3, 4, 5] = [3, 4, 5] ∧ p.apply [1, 2, 3, 4, 5] = [3, 4, 5]) ∧
    (∃ cuts : List Cut,
      ((List.range 2).map fun i => Dialect.readClause .mysql
        (Dialect.window .mysql
          ((Select.ofSource "t").call (.page (.ofNat (i + 1)) 2)).window).toList) =
        cuts.map some ∧
      cuts.flatMap (Cut.apply · [1, 2, 3, 4, 5]) = [1, 2, 3, 4]) ∧
    ∃ c, Dialect.readClause .postgres (Dialect.window .postgres
        ((Select.ofSource "t").call (.page 3 18446744073709551615)).window).toList = some c ∧
      c.apply [1, 2, 3, 4, 5] = [] := by
  obtain ⟨hwindow, hpages⟩ := windows_agree_and_pages_tile
  refine ⟨?_, ?_, ?_⟩
  · obtain ⟨m, p, hm, hp, -, -, hrows⟩ := hwindow ⟨none, some 2⟩
    obtain ⟨hmysql, hpostgres⟩ := hrows [1, 2, 3, 4, 5] (by decide)
    exact ⟨m, p, hm, hp, hmysql, hpostgres⟩
  · exact (hpages (.ofSource "t") .mysql 2 [1, 2, 3, 4, 5] (by decide)).1 2 (by decide) (by decide)
  · exact (hpages (.ofSource "t") .postgres 18446744073709551615 [1, 2, 3, 4, 5] (by decide)).2 3
      (by decide)

end SqlAccess
