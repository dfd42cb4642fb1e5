import SqlAccess.Mysql.Link
import SqlAccess.Proofs.Calendar.ReadBack
import SqlAccess.Proofs.Text.Utf8

/-!
# Temporal cells in binary form and as text

A server writes the same temporal cell in two ways: as numbers for a query with parameters, as text
for a query without. The two are read alike when the cell has a date. The zero date, which is NULL
in binary form, and a time of day, which counts from the first day of 1970 there, are refused as
text.
-/

namespace SqlAccess.Mysql

open Calendar Text

/-- A time of day to the microsecond, with the number of places its fraction is written with. -/
structure Clock where
  hour : Nat
  minute : Nat
  second : Nat
  places : Nat
  fraction : Nat
  hour_lt : hour < 24
  minute_lt : minute < 60
  second_lt : second < 60
  places_le : places ≤ 6
  fraction_lt : fraction < Nat.pow 10 places

/-- A date that MySQL supports: its year has four digits. -/
abbrev Day : Type := { d : Date // 0 ≤ d.year ∧ d.year ≤ 9999 }

/-- A temporal cell as a server holds it. -/
inductive TemporalCell
  | date (d : Day)
  | datetime (d : Day) (c : Clock)
  | time (c : Clock)
  | zeroDate
  | zeroDatetime

/-! ## Clocks -/

namespace Clock

/-- The microseconds of a clock after its second. -/
def micros (c : Clock) : Nat := c.fraction * Nat.pow 10 (6 - c.places)

private theorem micros_lt (c : Clock) : c.micros < 1000000 :=
  calc c.fraction * Nat.pow 10 (6 - c.places)
    _ < Nat.pow 10 c.places * Nat.pow 10 (6 - c.places) :=
        Nat.mul_lt_mul_of_pos_right c.fraction_lt (Nat.pow_pos (by decide))
    _ = Nat.pow 10 (c.places + (6 - c.places)) := (Nat.pow_add ..).symm
    _ = Nat.pow 10 6 := by rw [Nat.add_sub_cancel' c.places_le]

/-- The time of day that a clock shows. -/
def time (c : Clock) : Time where
  hour := c.hour
  minute := c.minute
  second := c.second
  nanos := c.micros * 1000
  hour_lt := c.hour_lt
  minute_lt := c.minute_lt
  second_lt := c.second_lt
  nanos_lt := by have := c.micros_lt; omega

/-- The characters of `hh:mm:ss` with the fraction. -/
def chars (c : Clock) : List Char := clockChars c.hour c.minute c.second c.places c.fraction

/-- A clock shows no leap second. -/
theorem nanos_time_lt (c : Clock) : c.time.nanos < 1000000000 := by
  have := c.micros_lt
  simp only [time]
  omega

/-- The nanoseconds of a clock are its fraction, filled up with zeros. -/
theorem nanos_time (c : Clock) : c.time.nanos = c.fraction * Nat.pow 10 (9 - c.places) := by
  have hsplit : 9 - c.places = 6 - c.places + 3 := by have := c.places_le; omega
  have hpow : Nat.pow 10 (6 - c.places + 3) = Nat.pow 10 (6 - c.places) * 1000 := Nat.pow_add ..
  rw [hsplit, hpow, ← Nat.mul_assoc]
  rfl

end Clock

/-! ## The two forms of a cell -/

namespace TemporalCell

/-- The cell in binary form. -/
def binary : TemporalCell → MysqlValue
  | date d => .date (.ofNat d.1.year.toNat) (.ofNat d.1.month) (.ofNat d.1.day) 0 0 0 0
  | datetime d c =>
    .date (.ofNat d.1.year.toNat) (.ofNat d.1.month) (.ofNat d.1.day)
      (.ofNat c.hour) (.ofNat c.minute) (.ofNat c.second) (.ofNat c.micros)
  | time c => .time false 0 (.ofNat c.hour) (.ofNat c.minute) (.ofNat c.second) (.ofNat c.micros)
  | zeroDate => .date 0 0 0 0 0 0 0
  | zeroDatetime => .date 0 0 0 0 0 0 0

/-- The characters of the zero date, `0000-00-00`. -/
def zeroDateChars : List Char := padded 4 0 ++ '-' :: padded 2 0 ++ '-' :: padded 2 0

/-- The characters of the cell as text. -/
def chars : TemporalCell → List Char
  | date d => d.1.chars
  | datetime d c => d.1.chars ++ ' ' :: c.chars
  | time c => c.chars
  | zeroDate => zeroDateChars
  | zeroDatetime => zeroDateChars ++ ' ' :: clockChars 0 0 0 0 0

/-- The cell as text. -/
def text (cell : TemporalCell) : String := String.ofList cell.chars

/-- The cell in text form. -/
def textual (cell : TemporalCell) : MysqlValue := .bytes (utf8 cell.text)

/-- The moment that a cell stands for; a date of zeros stands for none. -/
def moment : TemporalCell → Option Timestamp
  | date d => some (.ofDate d)
  | datetime d c => some ⟨d, c.time⟩
  | time c => some (.ofTime c.time)
  | zeroDate => none
  | zeroDatetime => none

/-- The value of a cell. -/
def value (cell : TemporalCell) : Option Value := cell.moment.map .timestamp

/-- Whether a cell has a date of the calendar. -/
def isDated : TemporalCell → Bool
  | date _ => true
  | datetime _ _ => true
  | time _ => false
  | zeroDate => false
  | zeroDatetime => false

end TemporalCell

/-! ## Reading the binary form -/

/-- A year below 65536 fits into its word. -/
private theorem toNat_ofNat_year {year : Int} (h : 0 ≤ year ∧ year < 65536) :
    ((UInt16.ofNat year.toNat).toNat : Int) = year := by
  have hlt : year.toNat < 65536 := by omega
  rw [UInt16.toNat_ofNat_of_lt' hlt]
  exact Int.toNat_of_nonneg h.1

/-- A number below 60 fits into a byte. -/
theorem toNat_ofNat_of_lt_60 {n : Nat} (h : n < 60) : (UInt8.ofNat n).toNat = n :=
  UInt8.toNat_ofNat_of_lt' (Nat.lt_trans h (by decide))

/-- The microseconds of a clock fit into their word. -/
private theorem toNat_ofNat_micros (c : Clock) : (UInt32.ofNat c.micros).toNat = c.micros :=
  UInt32.toNat_ofNat_of_lt' (Nat.lt_trans c.micros_lt (by decide))

/-- A clock is made again of its parts. -/
private theorem ofParts?_clock (c : Clock) :
    Time.ofParts? (UInt8.ofNat c.hour).toNat (UInt8.ofNat c.minute).toNat
      (UInt8.ofNat c.second).toNat ((UInt32.ofNat c.micros).toNat * 1000) = some c.time := by
  rw [toNat_ofNat_of_lt_60 (Nat.lt_trans c.hour_lt (by decide)), toNat_ofNat_of_lt_60 c.minute_lt,
    toNat_ofNat_of_lt_60 c.second_lt, toNat_ofNat_micros]
  exact Time.ofParts?_self (.inl c.nanos_time_lt)

/-- Numbers whose day is that of a date are read as the date and the time with them, if a clock
shows it. -/
theorem readTemporal_date {d : Date} (h : 0 ≤ d.year ∧ d.year < 65536) (hour minute second : UInt8)
    (micros : UInt32) :
    readTemporal (.date (.ofNat d.year.toNat) (.ofNat d.month) (.ofNat d.day)
      hour minute second micros) =
      (Time.ofParts? hour.toNat minute.toNat second.toNat (micros.toNat * 1000)).elim
        (.error .noDate) fun t => .ok (some ⟨d, t⟩) := by
  have hmonth : (UInt8.ofNat d.month).toNat = d.month :=
    toNat_ofNat_of_lt_60 (Nat.lt_of_le_of_lt d.month_mem.2 (by decide))
  have hday : (UInt8.ofNat d.day).toNat = d.day :=
    toNat_ofNat_of_lt_60 (Nat.lt_of_le_of_lt d.day_le_31 (by decide))
  have hzero : ¬(UInt16.ofNat d.year.toNat = 0 ∧ UInt8.ofNat d.month = 0 ∧
      UInt8.ofNat d.day = 0) := by
    rintro ⟨-, hm, -⟩
    have := d.month_mem.1
    rw [hm] at hmonth
    exact absurd hmonth (Nat.ne_of_lt this)
  simp only [readTemporal, if_neg hzero, toNat_ofNat_year h, hmonth, hday, d.ofParts?_self]
  cases Time.ofParts? hour.toNat minute.toNat second.toNat (micros.toNat * 1000) <;> rfl

/-- The year of a day fits into 16 bits. -/
theorem Day.year_lt (d : Day) : 0 ≤ d.1.year ∧ d.1.year < 65536 := by
  have := d.2
  omega

/-- The binary form of a cell is read as its moment. -/
theorem readTemporal_binary (cell : TemporalCell) :
    readTemporal cell.binary = .ok cell.moment := by
  cases cell with
  | date d => exact readTemporal_date d.year_lt 0 0 0 0
  | datetime d c =>
    rw [TemporalCell.binary, readTemporal_date d.year_lt, ofParts?_clock]
    rfl
  | time c =>
    simp only [TemporalCell.binary, readTemporal, ofParts?_clock]
    rfl
  | zeroDate => rfl
  | zeroDatetime => rfl

/-! ## Reading the text form -/

/-- The text of a cell is read when the cell has a date. -/
theorem read_chars (cell : TemporalCell) :
    Timestamp.read cell.chars = if cell.isDated then cell.moment else none := by
  cases cell <;> simp only [TemporalCell.chars]
  case date d => exact Timestamp.read_date d.2
  case datetime d c =>
    exact Timestamp.read_date_clock (t := c.time) d.2 (Nat.le_trans c.places_le (by decide))
      c.fraction_lt c.nanos_time c.nanos_time_lt
  case time c => exact Timestamp.read_clock c.hour_lt _ _ _ _
  all_goals rfl

/-- A cell with a date has a moment. -/
private theorem isSome_moment {cell : TemporalCell} (h : cell.isDated) : cell.moment.isSome := by
  cases cell <;> first | rfl | cases h

/-- The text form of a cell is read as its moment when the cell has a date, else it is refused. -/
theorem readTemporal_textual (cell : TemporalCell) :
    readTemporal cell.textual =
      if cell.isDated then .ok cell.moment else .error (.notTimestamp cell.text) := by
  have hread : Timestamp.read cell.text.toList = if cell.isDated then cell.moment else none := by
    rw [TemporalCell.text, String.toList_ofList, read_chars]
  simp only [TemporalCell.textual, readTemporal, cellText, ofUtf8_utf8, Except.mapError, hread]
  by_cases h : cell.isDated
  · obtain ⟨t, ht⟩ := Option.isSome_iff_exists.mp (isSome_moment h)
    simp [h, ht]
  · simp [h]

/-! ## Reading cells -/

/-- A cell of a temporal column has the value of its moment. -/
theorem decode_temporal {column : String} {maxBlob : Nat} {v : MysqlValue} (hv : v ≠ .null) :
    decode column .temporal maxBlob v =
      match readTemporal v with
      | .ok t => .ok (t.map .timestamp, [])
      | .error fault => .error (.decode column fault.message) := by
  have hcell : readCell .temporal v = (readTemporal v).map fun t => t.map .timestamp := by
    cases v <;> rfl
  rcases hr : readTemporal v with fault | t
  · cases v <;> simp_all [decode, Except.map]
  · cases t <;> cases v <;> simp_all [decode, Except.map]

/-- A cell in binary form has its value. -/
private theorem decode_binary (column : String) (maxBlob : Nat) (cell : TemporalCell) :
    decode column .temporal maxBlob cell.binary = .ok (cell.value, []) := by
  rw [decode_temporal (by cases cell <;> simp [TemporalCell.binary]), readTemporal_binary]
  rfl

/-- A cell in text form has its value when it has a date, else the column reports its text. -/
theorem decode_textual (column : String) (maxBlob : Nat) (cell : TemporalCell) :
    decode column .temporal maxBlob cell.textual =
      if cell.isDated then .ok (cell.value, [])
      else .error (.decode column (CellFault.notTimestamp cell.text).message) := by
  rw [decode_temporal (by simp [TemporalCell.textual]), readTemporal_textual]
  by_cases h : cell.isDated <;> simp [h, TemporalCell.value]

/-! ## Reading tables -/

/-- A table of temporal cells: every row has a cell for every column. -/
structure TemporalTable where
  columns : List MysqlColumn
  rows : List (List TemporalCell)
  kind_eq : ∀ c ∈ columns, c.kind = .temporal
  length_eq : ∀ row ∈ rows, row.length = columns.length

namespace TemporalTable

/-- The answer that sends the cells of a table in a form. -/
def answer (t : TemporalTable) (form : TemporalCell → MysqlValue) : MysqlAnswer :=
  ⟨t.columns, t.rows.map fun row => row.map form⟩

/-- The rows of a table as they are to be read. -/
def records (t : TemporalTable) : RecordSet :=
  .ofCells (t.columns.map MysqlColumn.name) (t.rows.map fun row => row.map TemporalCell.value)

/-- Whether every cell has a date of the calendar. -/
def IsDated (t : TemporalTable) : Prop := ∀ row ∈ t.rows, ∀ cell ∈ row, cell.isDated

instance (t : TemporalTable) : Decidable t.IsDated :=
  inferInstanceAs (Decidable (∀ row ∈ t.rows, ∀ cell ∈ row, cell.isDated))

end TemporalTable

/-- How a cell is read in a form, in any column: as its value. -/
def ReadsAs (form : TemporalCell → MysqlValue) (maxBlob : Nat) (cell : TemporalCell) : Prop :=
  ∀ column, decode column .temporal maxBlob (form cell) = .ok (cell.value, [])

/-- The refusal of a cell without a date in one of some columns. -/
def Refusal (columns : List MysqlColumn) (cells : List TemporalCell) (e : DbError) : Prop :=
  ∃ c ∈ columns, ∃ cell ∈ cells, cell.isDated = false ∧
    e = .decode c.name (CellFault.notTimestamp cell.text).message

/-- A row whose cells are read as their values. -/
theorem decodeCells_of_readsAs {form : TemporalCell → MysqlValue} {maxBlob : Nat}
    {columns : List MysqlColumn} {row : List TemporalCell} (hk : ∀ c ∈ columns, c.kind = .temporal)
    (hlen : row.length = columns.length) (hr : ∀ cell ∈ row, ReadsAs form maxBlob cell) :
    decodeCells maxBlob columns (row.map form) = ([], .ok (row.map TemporalCell.value)) := by
  induction columns generalizing row with
  | nil =>
    obtain rfl := List.eq_nil_of_length_eq_zero hlen
    rfl
  | cons c columns ih =>
    obtain ⟨cell, row, rfl⟩ := List.exists_cons_of_length_eq_add_one hlen
    obtain ⟨hkind, hk⟩ := List.forall_mem_cons.mp hk
    obtain ⟨hcell, hr⟩ := List.forall_mem_cons.mp hr
    have hrest := ih hk (Nat.succ.inj hlen) hr
    simp [decodeCells, hkind, hcell c.name, hrest, Except.map]

/-- A row in text form that has a cell without a date is refused for such a cell. -/
theorem decodeCells_refused (maxBlob : Nat) {columns : List MysqlColumn} {row : List TemporalCell}
    (hk : ∀ c ∈ columns, c.kind = .temporal) (hlen : row.length = columns.length)
    (hu : ¬∀ cell ∈ row, cell.isDated) :
    ∃ e, Refusal columns row e ∧
      decodeCells maxBlob columns (row.map TemporalCell.textual) = ([], .error e) := by
  induction columns generalizing row with
  | nil =>
    obtain rfl := List.eq_nil_of_length_eq_zero hlen
    exact absurd (fun cell h => absurd h List.not_mem_nil) hu
  | cons c columns ih =>
    obtain ⟨cell, row, rfl⟩ := List.exists_cons_of_length_eq_add_one hlen
    obtain ⟨hkind, hk⟩ := List.forall_mem_cons.mp hk
    have htext := decode_textual c.name maxBlob cell
    cases hd : cell.isDated with
    | false =>
      refine ⟨_, ⟨c, List.mem_cons_self, cell, List.mem_cons_self, hd, rfl⟩, ?_⟩
      simp [decodeCells, hkind, htext, hd]
    | true =>
      have hrow : ¬∀ cell ∈ row, cell.isDated := fun h => hu (List.forall_mem_cons.mpr ⟨hd, h⟩)
      obtain ⟨e, ⟨c', hc', cell', hcell', he⟩, hrest⟩ := ih hk (Nat.succ.inj hlen) hrow
      refine ⟨e, ⟨c', List.mem_cons_of_mem c hc', cell', List.mem_cons_of_mem cell hcell', he⟩, ?_⟩
      simp [decodeCells, hkind, htext, hd, hrest, Except.map]

/-- Rows whose cells are read as their values. -/
theorem decodeRows_of_readsAs {form : TemporalCell → MysqlValue} {maxBlob : Nat}
    {columns : List MysqlColumn} {rows : List (List TemporalCell)}
    (hk : ∀ c ∈ columns, c.kind = .temporal) (hlen : ∀ row ∈ rows, row.length = columns.length)
    (hr : ∀ row ∈ rows, ∀ cell ∈ row, ReadsAs form maxBlob cell) :
    decodeRows maxBlob columns (rows.map fun row => row.map form) =
      ([], .ok (rows.map fun row => row.map TemporalCell.value)) := by
  induction rows with
  | nil => rfl
  | cons row rows ih =>
    obtain ⟨hwide, hlen⟩ := List.forall_mem_cons.mp hlen
    obtain ⟨hrow, hr⟩ := List.forall_mem_cons.mp hr
    have hcells := decodeCells_of_readsAs hk hwide hrow
    simp [decodeRows, hcells, ih hlen hr, Except.map]

/-- Rows in text form with a cell without a date are refused for such a cell. -/
theorem decodeRows_refused (maxBlob : Nat) {columns : List MysqlColumn}
    {rows : List (List TemporalCell)} (hk : ∀ c ∈ columns, c.kind = .temporal)
    (hlen : ∀ row ∈ rows, row.length = columns.length)
    (hu : ¬∀ row ∈ rows, ∀ cell ∈ row, cell.isDated) :
    ∃ e, Refusal columns rows.flatten e ∧
      decodeRows maxBlob columns (rows.map fun row => row.map TemporalCell.textual) =
        ([], .error e) := by
  induction rows with
  | nil => exact absurd (fun row h => absurd h List.not_mem_nil) hu
  | cons row rows ih =>
    obtain ⟨hwide, hlen⟩ := List.forall_mem_cons.mp hlen
    by_cases hrow : ∀ cell ∈ row, cell.isDated
    · have hrows : ¬∀ row ∈ rows, ∀ cell ∈ row, cell.isDated := fun h =>
        hu (List.forall_mem_cons.mpr ⟨hrow, h⟩)
      obtain ⟨e, ⟨c, hc, cell, hcell, he⟩, hrest⟩ := ih hlen hrows
      have hcells : decodeCells maxBlob columns (row.map TemporalCell.textual) =
          ([], .ok (row.map TemporalCell.value)) :=
        decodeCells_of_readsAs hk hwide fun cell h column => by
          rw [decode_textual, if_pos (hrow cell h)]
      refine ⟨e, ⟨c, hc, cell, ?_, he⟩, ?_⟩
      · exact List.mem_append_right _ hcell
      · simp [decodeRows, hcells, hrest, Except.map]
    · obtain ⟨e, ⟨c, hc, cell, hcell, he⟩, hcells⟩ :=
        decodeCells_refused maxBlob hk hwide hrow
      refine ⟨e, ⟨c, hc, cell, List.mem_append_left _ hcell, he⟩, ?_⟩
      simp [decodeRows, hcells]

/-! ## Queries -/

section Queries

variable {σ : Type} [MysqlServer σ] {link : MysqlLink σ}

/-- A query on a link that is held reads the answer of the server. -/
theorem run_query {sql : String} {values : List Value} {maxBlob : Nat} {found : MysqlAnswer} {s : σ}
    (hheld : link.isHeld) (ha : (MysqlLink.ask sql values).run link.server = (.ok found, s)) :
    (MysqlLink.query maxBlob sql values).run link =
      ((decodeRows maxBlob found.columns found.rows).2.map
          (.ofCells (found.columns.map MysqlColumn.name)),
        { server := s, events := (decodeRows maxBlob found.columns found.rows).1 }) := by
  have hreach : (MysqlLink.reach (MysqlLink.ask sql values)).run link =
      (.ok found, { link with server := s }) := by
    show MysqlLink.reach _ link = _
    simp only [Action.run] at ha
    simp [MysqlLink.reach, hheld, Action.zoom, ha]
  refine (Action.run_bind_ok hreach).trans ?_
  rcases decodeRows maxBlob found.columns found.rows with ⟨events, e | rows⟩
  · refine (Action.run_bind_ok (Action.run_change ..)).trans ?_
    simpa [hheld, Except.map] using Action.run_bind_error (Action.run_ofExcept ..)
  · refine (Action.run_bind_ok (Action.run_change ..)).trans ?_
    refine (Action.run_bind_ok (Action.run_ofExcept ..)).trans ?_
    simp [hheld, Except.map, Action.run_pure]

/-- A table whose cells are read as their values is what the query gives. -/
theorem run_query_of_readsAs {sql : String} {values : List Value} {maxBlob : Nat} {s : σ}
    {table : TemporalTable} {form : TemporalCell → MysqlValue} (hheld : link.isHeld)
    (ha : (MysqlLink.ask sql values).run link.server = (.ok (table.answer form), s))
    (hr : ∀ row ∈ table.rows, ∀ cell ∈ row, ReadsAs form maxBlob cell) :
    (MysqlLink.query maxBlob sql values).run link = (.ok table.records, { server := s }) := by
  have hrows := decodeRows_of_readsAs table.kind_eq table.length_eq hr
  rw [run_query hheld ha]
  simp only [TemporalTable.answer, hrows]
  rfl

/-- A table in text form with a cell without a date is refused for such a cell. -/
theorem run_query_refused {sql : String} {values : List Value} {maxBlob : Nat} {s : σ}
    {table : TemporalTable} (hheld : link.isHeld)
    (ha : (MysqlLink.ask sql values).run link.server =
      (.ok (table.answer TemporalCell.textual), s)) (hu : ¬table.IsDated) :
    ∃ e, Refusal table.columns table.rows.flatten e ∧
      (MysqlLink.query maxBlob sql values).run link = (.error e, { server := s }) := by
  obtain ⟨e, he, hrows⟩ := decodeRows_refused maxBlob table.kind_eq table.length_eq hu
  refine ⟨e, he, ?_⟩
  rw [run_query hheld ha]
  simp only [TemporalTable.answer, hrows]
  rfl

end Queries

/-- The two forms of a temporal cell give the same in a column exactly when the cell has a date; a
time of day and the zero date are refused as text. So a query gives the same rows with and without
parameters exactly when every cell has a date: without parameters one cell without a date fails the
whole query. -/
theorem dated_cells_read_alike (column : String) (maxBlob : Nat) (cell : TemporalCell) :
    decode column .temporal maxBlob cell.binary = .ok (cell.value, []) ∧
    (cell.isDated → decode column .temporal maxBlob cell.textual = .ok (cell.value, [])) ∧
    (¬cell.isDated → decode column .temporal maxBlob cell.textual =
      .error (.decode column (CellFault.notTimestamp cell.text).message)) ∧
    ∀ (σ : Type) [MysqlServer σ] (link : MysqlLink σ) (sql : String) (value : Value)
      (values : List Value) (table : TemporalTable) (s s' : σ),
      link.isHeld →
      (MysqlServer.ask sql).run link.server = (.ok (table.answer TemporalCell.textual), s) →
      (MysqlServer.askPrepared sql ((value :: values).map encode)).run link.server =
        (.ok (table.answer TemporalCell.binary), s') →
      (MysqlLink.query maxBlob sql (value :: values)).run link =
        (.ok table.records, { server := s' }) ∧
      (table.IsDated →
        (MysqlLink.query maxBlob sql []).run link = (.ok table.records, { server := s })) ∧
      (¬table.IsDated → ∃ e, Refusal table.columns table.rows.flatten e ∧
        (MysqlLink.query maxBlob sql []).run link = (.error e, { server := s })) := by
  refine ⟨decode_binary .., fun h => ?_, fun h => ?_, ?_⟩
  · rw [decode_textual, if_pos h]
  · rw [decode_textual, if_neg h]
  intro σ _ link sql value values table s s' hheld htext hbinary
  refine ⟨?_, fun hdated => ?_, run_query_refused hheld htext⟩
  · exact run_query_of_readsAs hheld hbinary fun _ _ cell _ column => decode_binary column _ cell
  · refine run_query_of_readsAs hheld htext fun row hrow cell hcell column => ?_
    rw [decode_textual, if_pos (hdated row hrow cell hcell)]

/-- A server that answers every query with one table, in the form that the query asks for. -/
structure TableServer where
  table : TemporalTable

instance : MysqlServer TableServer where
  ask _ s := (.ok (s.table.answer TemporalCell.textual), s)
  askPrepared _ _ s := (.ok (s.table.answer TemporalCell.binary), s)

/-- A link to such a server. -/
def TemporalTable.link (t : TemporalTable) : MysqlLink TableServer := { server := ⟨t⟩ }

/-- A table with a column of type DATETIME and two rows, the second with a fraction. -/
def twoMoments : TemporalTable where
  columns := [⟨"at", 12, 63, rfl⟩]
  rows :=
    let day : Day := ⟨⟨2024, 5, 31, by decide, by decide, by decide⟩, by decide⟩
    [[.datetime day ⟨12, 30, 15, 0, 0, by decide, by decide, by decide, by decide, by decide⟩],
     [.datetime day ⟨23, 59, 59, 3, 250, by decide, by decide, by decide, by decide, by decide⟩]]
  kind_eq := by decide
  length_eq := by decide

/-- A zero date is absent from a binary cell, but refused in a textual one; of proper moments the
two kinds of cells read alike. -/
theorem twoMoments_read_alike :
    decode "at" .temporal 0 TemporalCell.zeroDate.binary = .ok (none, []) ∧
    decode "at" .temporal 0 TemporalCell.zeroDate.textual =
      .error (.decode "at" (CellFault.notTimestamp "0000-00-00").message) ∧
    (MysqlLink.query 0 "SELECT at FROM t" [.int 1]).run twoMoments.link =
      (.ok twoMoments.records, twoMoments.link) ∧
    (MysqlLink.query 0 "SELECT at FROM t" []).run twoMoments.link =
      (.ok twoMoments.records, twoMoments.link) := by
  have hdated : twoMoments.IsDated := by decide
  obtain ⟨hzero, -, hrefused, hquery⟩ := dated_cells_read_alike "at" 0 .zeroDate
  obtain ⟨hbinary, htext, -⟩ := hquery TableServer twoMoments.link "SELECT at FROM t" (.int 1) []
    twoMoments ⟨twoMoments⟩ ⟨twoMoments⟩ rfl rfl rfl
  exact ⟨hzero, hrefused nofun, hbinary, htext hdated⟩

/-- The zero date and half past twelve are values in binary form and refused as text. -/
theorem undated_refused_as_text :
    decode "t" .temporal 0 (.date 0 0 0 0 0 0 0) = .ok (none, []) ∧
    decode "t" .temporal 0 (.bytes (utf8 "0000-00-00")) =
      .error (.decode "t" "cannot parse \"0000-00-00\" as a timestamp") ∧
    decode "t" .temporal 0 (.time false 0 12 30 0 0) =
      .ok (some (.timestamp (.ofTime ⟨12, 30, 0, 0, by decide, by decide, by decide, by decide⟩)),
        []) ∧
    decode "t" .temporal 0 (.bytes (utf8 "12:30:00")) =
      .error (.decode "t" "cannot parse \"12:30:00\" as a timestamp") := by
  refine ⟨?_, ?_, ?_, ?_⟩ <;> rfl

end SqlAccess.Mysql
