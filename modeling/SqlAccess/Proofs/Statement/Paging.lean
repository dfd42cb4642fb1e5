import SqlAccess.Proofs.Statement.Counting
import SqlAccess.Proofs.UnitOfWork.Exchange

/-!
# Pages with their total

A page is read with two queries: the count, and then the rows, if the count came back as a number.
Both are written for the dialect of the executor around one body. `Counted` and `Paged` say of the
calls of a run and of its result what they can be; each step of reading a page has one lemma.
-/

namespace SqlAccess

/-- The queries of an executor do not change its dialect. -/
def KeepsDialect (σ : Type) [Executor σ] : Prop :=
  ∀ (sql : String) (values : List Value) (s : σ),
    Executor.dialect ((Executor.query sql values).run s).2 = Executor.dialect s

/-- A script keeps its dialect, whether or not an answer is left in its queue. -/
theorem Script.keepsDialect : KeepsDialect Script := by
  intro sql values s
  show ((Script.answer (.query sql values) Script.queries
    (fun rest s => { s with queries := rest }) .empty) s).2.dialect = s.dialect
  unfold Script.answer
  split <;> rfl

namespace Select

/-! ## The number in a count -/

/-- The first cell of the first row. -/
def firstCell (rows : RecordSet) : Option Value := (rows.get? 0).bind (Row.cellAt · 0)

/-- The number that a count comes back as: an integer of 64 bits, where what is below zero counts as
zero, or the whole part of a decimal number that fits a word. -/
inductive Counts (rows : RecordSet) : UInt64 → Prop
  | integer {v : Value} {n : Int} (hcell : firstCell rows = some v) (hv : v.integer? = some n)
      (hlow : -9223372036854775808 ≤ n) (hhigh : n < 9223372036854775808) :
      Counts rows (.ofNat n.toNat)
  | decimal {d : Number.Decimal} (hcell : firstCell rows = some (.decimal d)) :
      Counts rows (d.toUInt64?.getD 0)

/-- What a set counts, if anything, is the number of its count. -/
theorem counts_of_countOf {rows : RecordSet} {n : UInt64} (h : countOf rows = .ok n) :
    Counts rows n := by
  unfold countOf at h
  cases hcell : firstCell rows with
  | none =>
    rw [firstCell] at hcell
    rw [hcell] at h
    cases h
  | some v =>
    have hv := hcell
    rw [firstCell] at hv
    rw [hv] at h
    cases hm : v.asInt64 with
    | some m =>
      simp only [hm] at h
      cases h
      have hlow := m.le_toInt
      have hhigh := m.toInt_lt
      exact .integer hcell (Value.asInt64_eq_some_iff.mp hm) (by omega) (by omega)
    | none =>
      simp only [hm] at h
      cases v with
      | decimal d =>
        cases h
        exact .decimal hcell
      | _ => cases h

/-- A set whose first cell is a number counts it. -/
theorem Counts.countOf_eq {rows : RecordSet} {n : UInt64} (h : Counts rows n) :
    countOf rows = .ok n := by
  cases h with
  | @integer v n hcell hv hlow hhigh =>
    have hn : (Int64.ofInt n).toInt = n := Int64.toInt_ofInt_of_le (by omega) (by omega)
    have hm : v.asInt64 = some (Int64.ofInt n) := by rw [Value.asInt64_eq_some_iff, hv, hn]
    rw [firstCell] at hcell
    simp only [countOf, hcell, hm, hn]
  | decimal hcell =>
    rw [firstCell] at hcell
    simp only [countOf, hcell]
    rfl

/-- Every other set is refused. -/
theorem countOf_eq_error {rows : RecordSet} {e : DbError} (h : countOf rows = .error e) :
    e = noCount ∧ ∀ n, ¬ Counts rows n := by
  constructor
  · unfold countOf at h
    split at h
    · cases h
      rfl
    · split at h <;> cases h
      rfl
  · intro n hn
    rw [hn.countOf_eq] at h
    cases h

/-! ## The calls -/

/-- The calls of a count, with its answer, and what comes of it. -/
inductive Counted (q : Select) (d : Dialect) : List Exchange → Except DbError UInt64 → Prop
  /-- A count that cannot be written is not sent. -/
  | refused {e : DbError} (h : q.countPrepareFor d = .error e) : Counted q d [] (.error e)
  | failed {c : Prepared} {e : DbError} (hc : q.countPrepareFor d = .ok c) :
      Counted q d [.query c.sql c.parameters.values (.error e)] (.error e)
  /-- The answer holds no number. -/
  | noCount {c : Prepared} {rows : RecordSet} (hc : q.countPrepareFor d = .ok c)
      (hn : ∀ n, ¬ Counts rows n) :
      Counted q d [.query c.sql c.parameters.values (.ok rows)] (.error noCount)
  | counted {c : Prepared} {rows : RecordSet} {n : UInt64} (hc : q.countPrepareFor d = .ok c)
      (hn : Counts rows n) : Counted q d [.query c.sql c.parameters.values (.ok rows)] (.ok n)

/-- The calls that read a page, with their answers, and what comes of them. -/
inductive Paged (q : Select) (d : Dialect) : List Exchange → Except DbError RecordSet → Prop
  /-- Without a count nothing more is asked. -/
  | uncounted {sent : List Exchange} {e : DbError} (h : Counted q d sent (.error e)) :
      Paged q d sent (.error e)
  /-- Behind the count the rows are asked for, and they get the count as their total. -/
  | read {sent : List Exchange} {n : UInt64} {p : Prepared} {answer : Except DbError RecordSet}
      (h : Counted q d sent (.ok n)) (hp : Statement.prepareFor d q = .ok p) :
      Paged q d (sent ++ [.query p.sql p.parameters.values answer])
        (answer.map fun page => { page with total? := some n })

/-- What can be counted can be read. -/
theorem Counted.exists_prepareFor {q : Select} {d : Dialect} {sent : List Exchange} {n : UInt64}
    (h : Counted q d sent (.ok n)) : ∃ p, Statement.prepareFor d q = .ok p := by
  obtain ⟨c, hc⟩ : ∃ c, q.countPrepareFor d = .ok c := by
    cases h with
    | counted hc _ => exact ⟨_, hc⟩
  rw [countPrepareFor_eq] at hc
  rw [prepareFor_eq]
  cases ht : q.filtersPrepared d with
  | error e =>
    rw [ht] at hc
    cases hc
  | ok t => exact ⟨_, rfl⟩

section Executors

variable {σ : Type} [Executor σ]

/-- A query is in the log with its answer, and the dialect stays. -/
theorem run_query_recorded (hσ : KeepsDialect σ) (sql : String) (values : List Value)
    (s : Recorded σ Exchange) :
    ∃ answer t, (Executor.query sql values).run s = (answer, t) ∧
      t.log = s.log ++ [.query sql values answer] ∧ Executor.dialect t = Executor.dialect s :=
  ⟨_, _, rfl, rfl, hσ sql values s.inner⟩

/-- A count sends what can be written and reads the number off its answer. -/
theorem counted_count (hσ : KeepsDialect σ) (q : Select) (s : Recorded σ Exchange) :
    ∃ sent r t, q.count.run s = (r, t) ∧ Counted q (Executor.dialect s) sent r ∧
      t.log = s.log ++ sent ∧ Executor.dialect t = Executor.dialect s := by
  rw [count, Action.run_look_bind _ rfl]
  cases hc : q.countPrepareFor (Executor.dialect s) with
  | error e => exact ⟨[], _, _, rfl, .refused hc, (List.append_nil _).symm, rfl⟩
  | ok c =>
    rw [Action.run_bind_ok (Action.run_ofExcept _ s)]
    obtain ⟨answer, t, hrun, hlog, hdialect⟩ :=
      run_query_recorded hσ c.sql c.parameters.values s
    cases answer with
    | error e => exact ⟨_, _, t, Action.run_bind_error hrun, .failed hc, hlog, hdialect⟩
    | ok rows =>
      rw [Action.run_bind_ok hrun]
      cases hn : countOf rows with
      | error e =>
        obtain ⟨rfl, hnone⟩ := countOf_eq_error hn
        exact ⟨_, _, t, rfl, .noCount hc hnone, hlog, hdialect⟩
      | ok n => exact ⟨_, _, t, rfl, .counted hc (counts_of_countOf hn), hlog, hdialect⟩

/-- A page is asked for behind its count, and only behind a count that came back as a number. -/
theorem paged_fetchPage (hσ : KeepsDialect σ) (q : Select) (s : Recorded σ Exchange) :
    ∃ sent, (q.fetchPage.run s).2.log = s.log ++ sent ∧
      Paged q (Executor.dialect s) sent (q.fetchPage.run s).1 := by
  obtain ⟨sent, r, t, hcount, hcounted, hlog, hdialect⟩ := counted_count hσ q s
  cases r with
  | error e =>
    have hrun : q.fetchPage.run s = (.error e, t) := Action.run_bind_error hcount
    rw [hrun]
    exact ⟨sent, hlog, .uncounted hcounted⟩
  | ok n =>
    obtain ⟨p, hp⟩ := hcounted.exists_prepareFor
    obtain ⟨answer, u, hquery, hlog', -⟩ := run_query_recorded hσ p.sql p.parameters.values t
    have hrows : (Statement.query q).run t = (answer, u) := by
      rw [Statement.query, Action.run_look_bind _ hdialect,
        Action.run_bind_ok ((Action.run_ofExcept _ t).trans (by rw [hp]))]
      exact hquery
    have hrun : q.fetchPage.run s =
        (answer.map fun page => { page with total? := some n }, u) := by
      rw [fetchPage, Action.run_bind_ok hcount]
      cases answer with
      | error e => exact Action.run_bind_error hrows
      | ok page => exact Action.run_bind_ok hrows
    rw [hrun]
    exact ⟨_, by rw [hlog', hlog, List.append_assoc], .read hcounted hp⟩

end Executors

/-- A query and its count agree in each dialect. With literals and with placeholders both are
refused for the first error of the filters, or both are written around one body. With placeholders
they bind the same parameters. Calls that only order rows or set the window do not change the
count. On every script a page is read with the count that is prepared in the dialect of the script
and, if that comes back as a number, with the query prepared likewise; the rows are those of
the query and their total is the number. -/
theorem count_and_page_share_filter (q : Select) :
    (∀ d : Dialect,
      (∃ e, q.filterLiterals d = .error e ∧ Statement.literalFor d q = .error e ∧
        q.countLiteralFor d = .error e) ∨
      ∃ w h, q.filter.literal d = .ok w ∧ q.groupFilter.literal d = .ok h ∧
        Statement.literalFor d q = .ok (q.pageText d (q.bodyText w h)) ∧
        q.countLiteralFor d = .ok (q.countText (q.bodyText w h))) ∧
    (∀ d : Dialect,
      (∃ e, q.filtersPrepared d = .error e ∧ Statement.prepareFor d q = .error e ∧
        q.countPrepareFor d = .error e) ∨
      ∃ w h p p', q.filter.prepareAfter d .empty = (.ok w, p) ∧
        q.groupFilter.prepareAfter d p = (.ok h, p') ∧
        Statement.prepareFor d q = .ok ⟨q.pageText d (q.bodyText w h), p'⟩ ∧
        q.countPrepareFor d = .ok ⟨q.countText (q.bodyText w h), p'⟩) ∧
    (∀ (cs : List SelectCall) (d : Dialect),
      (q.calls (cs.filter fun c => !c.isPaging)).countLiteralFor d =
        (q.calls cs).countLiteralFor d ∧
      (q.calls (cs.filter fun c => !c.isPaging)).countPrepareFor d =
        (q.calls cs).countPrepareFor d) ∧
    ∀ s : Recorded Script Exchange, ∃ sent, (q.fetchPage.run s).2.log = s.log ++ sent ∧
      Paged q (Executor.dialect s) sent (q.fetchPage.run s).1 := by
  refine ⟨fun d => ?_, fun d => ?_, fun cs d => ?_, paged_fetchPage Script.keepsDialect q⟩
  · rw [literalFor_eq, countLiteralFor_eq]
    cases ht : q.filterLiterals d with
    | error e => exact .inl ⟨e, rfl, rfl, rfl⟩
    | ok t =>
      obtain ⟨hw, hh⟩ := literal_of_filterLiterals ht
      exact .inr ⟨t.1, t.2, hw, hh, rfl, rfl⟩
  · rw [prepareFor_eq, countPrepareFor_eq]
    cases ht : q.filtersPrepared d with
    | error e => exact .inl ⟨e, rfl, rfl, rfl⟩
    | ok t =>
      obtain ⟨p, hw, hh⟩ := prepareAfter_of_filtersPrepared ht
      exact .inr ⟨t.1, t.2.1, p, t.2.2, hw, hh, rfl, rfl⟩
  · rw [countLiteralFor, countLiteralFor, countPrepareFor, countPrepareFor, countFragment_calls]
    exact ⟨rfl, rfl⟩

end Select

end SqlAccess
