import SqlAccess.Record

/-!
# Sets of rows and their cursor

A set holds the rows it was given, each cut or filled up with NULL to the width of the columns. No
call changes them: a call moves the cursor or gives a total. The cursor stays before the first row
or on a row, and moving it forward until that is refused passes by all rows that lie ahead.
-/

namespace SqlAccess

/-- A call that moves the cursor of a set or gives the set a total. -/
inductive RecordSetCall
  | next
  | prev
  | reset
  | setTotal (total : Option UInt64)

namespace RecordSet

/-- The set after a call. -/
def call (s : RecordSet) : RecordSetCall → RecordSet
  | .next => s.next.2
  | .prev => s.prev.2
  | .reset => s.reset
  | .setTotal total => s.setTotal total

/-- The set after several calls. -/
def calls (s : RecordSet) (cs : List RecordSetCall) : RecordSet := cs.foldl call s

/-! ## The rows -/

/-- A set holds rows of cells: as many as there are, in their order, each as wide as the columns,
with the given cell in each place that has one and NULL in the others. -/
structure Holds (s : RecordSet) (columns : List String) (rows : List (List (Option Value))) :
    Prop where
  columns_eq : s.columns = columns
  size_eq : s.size = rows.length
  get?_eq : ∀ i cells, rows[i]? = some cells → ∃ r, s.get? i = some r ∧ r.columns = columns ∧
    r.cells.length = columns.length ∧ ∀ j < columns.length, r.cells[j]? = some cells[j]?.join

/-- A row that is fitted has one cell for each column. -/
@[simp] theorem length_fit (width : Nat) (cells : List (Option Value)) :
    (fit width cells).length = width := by
  fun_induction fit width cells with
  | case1 => rfl
  | case2 width ih => rw [List.length_cons, ih]
  | case3 width c rest ih => rw [List.length_cons, ih]

/-- A place of fitted cells holds the given cell, or NULL where none is given. -/
theorem getElem?_fit (width : Nat) (cells : List (Option Value)) {j : Nat} (h : j < width) :
    (fit width cells)[j]? = some cells[j]?.join := by
  fun_induction fit width cells generalizing j with
  | case1 => exact absurd h (Nat.not_lt_zero j)
  | case2 width ih =>
    cases j with
    | zero => rfl
    | succ j => exact ih (Nat.lt_of_succ_lt_succ h)
  | case3 width c rest ih =>
    cases j with
    | zero => rfl
    | succ j => exact ih (Nat.lt_of_succ_lt_succ h)

/-- A set that is made from cells holds those cells, fitted to its columns. -/
theorem holds_ofCells (columns : List String) (rows : List (List (Option Value))) :
    (ofCells columns rows).Holds columns rows where
  columns_eq := rfl
  size_eq := List.length_map _
  get?_eq i cells hcells := by
    refine ⟨⟨columns, fit columns.length cells⟩, ?_, rfl, length_fit _ _, ?_⟩
    · rw [get?, ofCells, List.getElem?_map, hcells]
      rfl
    · exact fun j hj => getElem?_fit _ _ hj

/-! ## The cursor -/

/-- The cursor is one before the row that it would move forward to. -/
theorem position_eq (s : RecordSet) : s.position = (s.following : Int) - 1 := by
  unfold position following
  cases s.cursor with
  | none => rfl
  | some i => simp

/-- The cursor moves forward to the next row, or there is none and nothing changes. -/
theorem next_cases (s : RecordSet) :
    (s.following < s.size ∧ s.next = (true, { s with cursor := some s.following })) ∨
      (s.size ≤ s.following ∧ s.next = (false, s)) := by
  by_cases h : s.following < s.size
  · exact .inl ⟨h, if_pos h⟩
  · exact .inr ⟨Nat.not_lt.mp h, if_neg h⟩

/-- The cursor moves back from a row that is not the first, and else nothing changes. -/
theorem prev_cases (s : RecordSet) :
    (∃ i, s.following = i + 2 ∧ s.prev = (true, { s with cursor := some i })) ∨
      (s.following ≤ 1 ∧ s.prev = (false, s)) := by
  unfold following prev
  rcases s.cursor with _ | _ | i
  · exact .inr ⟨Nat.zero_le 1, rfl⟩
  · exact .inr ⟨Nat.le_refl 1, rfl⟩
  · exact .inl ⟨i, rfl, rfl⟩

/-- The row at the cursor is the one before the row that it would move forward to. -/
theorem current_of_following {s : RecordSet} {i : Nat} (h : s.following = i + 1) :
    s.current = s.rows[i]? := by
  unfold following at h
  unfold current
  cases hcursor : s.cursor with
  | none => simp [hcursor] at h
  | some j =>
    obtain rfl : j = i := by simpa [hcursor] using h
    rfl

/-- Before the first row there is no row at the cursor. -/
private theorem current_of_following_eq_zero {s : RecordSet} (h : s.following = 0) :
    s.current = none := by
  unfold following at h
  unfold current
  cases hcursor : s.cursor with
  | none => rfl
  | some j => simp [hcursor] at h

/-- From one state of a set to another the columns and the rows stay, and the cursor of the other
one is before the first row or on a row. -/
structure Keeps (s t : RecordSet) : Prop where
  columns_eq : t.columns = s.columns
  rows_eq : t.rows = s.rows
  inRange : t.following ≤ t.size

/-- Each call keeps the rows, and the cursor among them. -/
theorem Keeps.call {s t : RecordSet} (h : s.Keeps t) (c : RecordSetCall) : s.Keeps (t.call c) := by
  cases c with
  | next =>
    rw [RecordSet.call]
    rcases t.next_cases with ⟨hlt, hnext⟩ | ⟨-, hnext⟩
    · rw [hnext]
      exact ⟨h.columns_eq, h.rows_eq, hlt⟩
    · rw [hnext]
      exact h
  | prev =>
    rw [RecordSet.call]
    rcases t.prev_cases with ⟨i, hfollowing, hprev⟩ | ⟨-, hprev⟩
    · rw [hprev]
      have hin : i + 2 ≤ t.size := hfollowing ▸ h.inRange
      exact ⟨h.columns_eq, h.rows_eq, Nat.le_of_succ_le hin⟩
    · rw [hprev]
      exact h
  | reset => exact ⟨h.columns_eq, h.rows_eq, Nat.zero_le _⟩
  | setTotal total => exact ⟨h.columns_eq, h.rows_eq, h.inRange⟩

/-- Calls one after another keep the rows, and the cursor among them. -/
theorem Keeps.calls {s t : RecordSet} (h : s.Keeps t) (cs : List RecordSetCall) :
    s.Keeps (t.calls cs) := by
  induction cs generalizing t with
  | nil => exact h
  | cons c cs ih => exact ih (h.call c)

/-! ## Moving forward to the end -/

/-- What is at the cursor after each move forward, until it does not move any more. -/
def visited (s : RecordSet) : List (Option Row) :=
  if s.next.1 then s.next.2.current :: s.next.2.visited else []
termination_by s.size - s.following
decreasing_by
  rename_i hmoved
  rcases s.next_cases with ⟨hlt, hnext⟩ | ⟨-, hnext⟩
  · rw [hnext]
    exact Nat.sub_succ_lt_self _ _ hlt
  · rw [hnext] at hmoved
    cases hmoved

/-- What is visited are the rows that lie ahead of the cursor, each once and in their order. -/
theorem visited_eq (s : RecordSet) : s.visited = (s.rows.drop s.following).map some := by
  fun_induction visited s with
  | case1 s hmoved ih =>
    rcases s.next_cases with ⟨hlt, hnext⟩ | ⟨-, hnext⟩
    · rw [ih, hnext, List.drop_eq_getElem_cons hlt, List.map_cons,
        current_of_following (i := s.following) rfl, List.getElem?_eq_getElem hlt]
      rfl
    · rw [hnext] at hmoved
      cases hmoved
  | case2 s hstays =>
    rcases s.next_cases with ⟨-, hnext⟩ | ⟨hle, -⟩
    · rw [hnext] at hstays
      exact absurd rfl hstays
    · rw [List.drop_eq_nil_of_le hle]
      rfl

/-! ## Walking through a set -/

/-- How the cursor moves forward: by one row, exactly if it is before the last row, and nothing else
changes. From a row the move is undone by a move back. -/
structure StepsForward (s : RecordSet) : Prop where
  moves_iff : s.next.1 = true ↔ s.position < s.size - 1
  moves : s.next.1 = true →
    s.next.2 = { s with cursor := s.next.2.cursor } ∧ s.next.2.position = s.position + 1
  stays : s.next.1 = false → s.next.2 = s
  undone : 0 ≤ s.position → s.next.1 = true → s.next.2.prev = (true, s)

/-- How the cursor moves back: by one row, exactly if it is behind the first row, and nothing else
changes. -/
structure StepsBack (s : RecordSet) : Prop where
  moves_iff : s.prev.1 = true ↔ 0 < s.position
  moves : s.prev.1 = true →
    s.prev.2 = { s with cursor := s.prev.2.cursor } ∧ s.prev.2.position = s.position - 1
  stays : s.prev.1 = false → s.prev.2 = s

/-- Every set steps forward by one row, and not past the end. -/
theorem stepsForward (s : RecordSet) : s.StepsForward := by
  have hposition := s.position_eq
  rcases s.next_cases with ⟨hlt, hnext⟩ | ⟨hle, hnext⟩
  · have hmoved : s.next.2.position = s.following := by rw [hnext]; rfl
    refine ⟨?_, fun _ => ⟨by rw [hnext], by omega⟩, ?_, fun hrow _ => ?_⟩
    · simp only [hnext, true_iff]
      omega
    · simp [hnext]
    · -- From a row the cursor is `some i`, so that a move forward is to `i + 1`.
      obtain ⟨i, hcursor⟩ : ∃ i, s.cursor = some i := by
        cases hs : s.cursor with
        | none => simp [position, hs] at hrow
        | some i => exact ⟨i, rfl⟩
      have hfollowing : s.following = i + 1 := by rw [following, hcursor]
      have hsame : { s with cursor := some i } = s := by rw [← hcursor]
      rw [hnext, hfollowing]
      exact congrArg (Prod.mk true) hsame
  · refine ⟨?_, ?_, fun _ => by rw [hnext], ?_⟩
    · simp only [hnext, Bool.false_eq_true, false_iff]
      omega
    · simp [hnext]
    · simp [hnext]

/-- Every set steps back by one row, and not past the start. -/
theorem stepsBack (s : RecordSet) : s.StepsBack := by
  have hposition := s.position_eq
  rcases s.prev_cases with ⟨i, hfollowing, hprev⟩ | ⟨hle, hprev⟩
  · have hmoved : s.prev.2.position = i := by rw [hprev]; rfl
    refine ⟨?_, fun _ => ⟨by rw [hprev], by omega⟩, ?_⟩
    · simp only [hprev, true_iff]
      omega
    · simp [hprev]
  · refine ⟨?_, ?_, fun _ => by rw [hprev]⟩
    · simp only [hprev, Bool.false_eq_true, false_iff]
      omega
    · simp [hprev]

/-- What is true of a set `t` after calls on a set `s`. -/
structure Walks (s t : RecordSet) : Prop where
  columns_eq : t.columns = s.columns
  rows_eq : t.rows = s.rows
  position_mem : -1 ≤ t.position ∧ t.position < t.size
  forward : t.StepsForward
  back : t.StepsBack
  /-- A reset puts the cursor before the first row and changes nothing else. -/
  reset_eq : t.reset = { t with cursor := t.reset.cursor } ∧ t.reset.position = -1
  /-- A total changes nothing but the total. -/
  setTotal_eq : ∀ total, t.setTotal total = { t with total? := total }
  /-- There is no row at the cursor exactly before the first row. -/
  current_eq_none_iff : t.current = none ↔ t.position = -1
  /-- The row at the cursor is the one with the index of the cursor. -/
  current_eq : ∀ i : Nat, t.position = i → t.current = t.get? i
  /-- Moving forward from a reset visits every row once, in order. -/
  visited_reset : t.reset.visited = t.rows.map some

/-- A set whose cursor is kept among its rows walks from there row by row. -/
theorem Keeps.walks {s t : RecordSet} (h : s.Keeps t) : s.Walks t where
  columns_eq := h.columns_eq
  rows_eq := h.rows_eq
  position_mem := by
    have hin := h.inRange
    have hposition := t.position_eq
    omega
  forward := t.stepsForward
  back := t.stepsBack
  reset_eq := ⟨rfl, rfl⟩
  setTotal_eq _ := rfl
  current_eq_none_iff := by
    have hposition := t.position_eq
    cases hfollowing : t.following with
    | zero => simp [current_of_following_eq_zero hfollowing, hposition, hfollowing]
    | succ i =>
      have hlt : i < t.rows.length := Nat.le_trans (Nat.le_of_eq hfollowing.symm) h.inRange
      rw [current_of_following hfollowing, List.getElem?_eq_getElem hlt]
      simp only [reduceCtorEq, false_iff]
      omega
  current_eq i hi := by
    have hposition := t.position_eq
    exact current_of_following (by omega)
  visited_reset := visited_eq t.reset

/-- A set of given rows holds them, and after any calls it has the same rows, and its cursor is
before the first row or on a row and walks from there row by row. -/
theorem cursor_walks_rows (columns : List String) (rows : List (List (Option Value)))
    (cs : List RecordSetCall) :
    (ofCells columns rows).Holds columns rows ∧
      (ofCells columns rows).Walks ((ofCells columns rows).calls cs) := by
  have hstart : (ofCells columns rows).Keeps (ofCells columns rows) :=
    ⟨rfl, rfl, Nat.zero_le _⟩
  exact ⟨holds_ofCells columns rows, (hstart.calls cs).walks⟩

/-- A row that is too long is cut, one that is too short is filled up, and the cursor does not leave
the two of them. -/
example :
    let s := ofCells ["a", "b"] [[some (.bool true), none, some .null], [some (.bool false)]]
    (s.calls [.prev, .next, .next, .next]).position = 1 ∧
      (s.calls [.next, .next]).current.map (·.cells.length) = some 2 := by
  decide

end RecordSet

end SqlAccess
