import Mathlib.Algebra.Order.Ring.Nat
import SqlAccess.Proofs.Bulk.Units

/-!
# Runs of an insert

A run makes the calls of its units one after another until one of them fails. If none does,
everything has been committed and the report counts it. A failed BEGIN is the last call of a run. A
failed COMMIT or statement is followed by one ROLLBACK, and a failed statement is reported with its
place, its text and the counts of all statements.
-/

namespace SqlAccess

namespace BulkInsert

/-- How a run of statements breaks off from the planned calls, and with which error. -/
inductive BrokenOff (plan : List Call) (statements : List String) : List Exchange → DbError → Prop
  /-- Nothing follows a BEGIN that fails. -/
  | begin {log : List Exchange} {rest : List Call} (h : Kept plan log (.begin :: rest))
    (e : DbError) : BrokenOff plan statements (log ++ [.begin (.error e)]) e
  /-- A ROLLBACK follows a COMMIT that fails; its answer does not matter. -/
  | commit {log : List Exchange} {rest : List Call} (h : Kept plan log (.commit :: rest))
    (e : DbError) (answer : Except DbError Unit) :
    BrokenOff plan statements (log ++ [.commit (.error e), .rollback answer]) e
  /-- A ROLLBACK follows a statement that fails; its answer does not matter. The error tells which
  statement it was, and the rows changed before it. -/
  | execute {log : List Exchange} {rest : List Call} {sql : String} {counts : List Int64}
    (h : Kept plan log (.execute sql [] :: rest)) (hopen : isOpen log = true)
    (hsql : statements[(changedIn log).length]? = some sql)
    (hcounts : counts.map Int64.toInt = (changedIn log).map capped ++
      List.replicate (statements.length - (changedIn log).length) (-1))
    (e : DbError) (answer : Except DbError Unit) :
    BrokenOff plan statements (log ++ [.execute sql [] (.error e), .rollback answer])
      (.batchFailed (changedIn log).length sql counts e)

variable {σ α β : Type} {b : BulkInsert} {plan : List Call} {statements : List String}

/-- What an action of a run comes to: something holds of its result, or the run breaks off. -/
def ComesTo (plan : List Call) (statements : List String)
    (P : α → Recorded σ Exchange → Prop) : Except DbError α × Recorded σ Exchange → Prop
  | (.ok a, s) => P a s
  | (.error e, s) => BrokenOff plan statements s.log e

/-- Actions of a run follow one another unless it breaks off. -/
theorem ComesTo.bind {a : Action (Recorded σ Exchange) α}
    {f : α → Action (Recorded σ Exchange) β} {P : α → Recorded σ Exchange → Prop}
    {Q : β → Recorded σ Exchange → Prop} {s : Recorded σ Exchange}
    (ha : ComesTo plan statements P (a.run s))
    (hf : ∀ x t, P x t → ComesTo plan statements Q ((f x).run t)) :
    ComesTo plan statements Q ((a >>= f).run s) := by
  rcases hx : a.run s with ⟨e | x, t⟩
  · rw [hx] at ha
    rw [Action.run_bind_error hx]
    exact ha
  · rw [hx] at ha
    rw [Action.run_bind_ok hx]
    exact hf x t ha

/-- What holds of a result may be weakened. -/
theorem ComesTo.imp {P Q : α → Recorded σ Exchange → Prop}
    {out : Except DbError α × Recorded σ Exchange} (h : ComesTo plan statements P out)
    (hPQ : ∀ a s, P a s → Q a s) : ComesTo plan statements Q out := by
  obtain ⟨e | a, s⟩ := out
  · exact h
  · exact hPQ a s h

variable [Executor σ]

/-- A BEGIN that is due opens a transaction or breaks the run off. -/
theorem comesTo_begin {s : Recorded σ Exchange} {rest : List Call}
    (h : Kept plan s.log (.begin :: rest)) :
    ComesTo plan statements
      (fun _ t => Kept plan t.log rest ∧ isOpen t.log = true ∧ changedIn t.log = changedIn s.log)
      ((Executor.begin (σ := Recorded σ Exchange)).run s) := by
  rcases hx : (Executor.begin (σ := Recorded σ Exchange)).run s with ⟨e | _, t⟩
  · have hlog : t.log = s.log ++ [.begin (.error e)] := Recorded.log_of_run_note hx
    show BrokenOff plan statements t.log e
    rw [hlog]
    exact .begin h e
  · have hlog : t.log = s.log ++ [.begin (.ok ())] := Recorded.log_of_run_note hx
    show Kept plan t.log rest ∧ isOpen t.log = true ∧ changedIn t.log = changedIn s.log
    rw [hlog, isOpen_append, changedIn_append]
    exact ⟨h.snoc rfl nofun, Bool.or_true _, List.append_nil _⟩

/-- A COMMIT that is due keeps to the plan or breaks the run off. -/
theorem comesTo_settle {s : Recorded σ Exchange} {rest : List Call} (a : α)
    (h : Kept plan s.log (.commit :: rest)) :
    ComesTo plan statements
      (fun x t => x = a ∧ Kept plan t.log rest ∧ changedIn t.log = changedIn s.log)
      ((settle (.ok a)).run s) := by
  rcases hx : (Executor.commit (σ := Recorded σ Exchange)).run s with ⟨e | _, t⟩
  · have hlog : t.log = s.log ++ [.commit (.error e)] := Recorded.log_of_run_note hx
    obtain ⟨answer, hback⟩ := Recorded.log_afterRollback t
    rw [run_settle_failed hx a]
    show BrokenOff plan statements (afterRollback t).log e
    rw [hback, hlog, List.append_assoc]
    exact .commit h e answer
  · have hlog : t.log = s.log ++ [.commit (.ok ())] := Recorded.log_of_run_note hx
    rw [run_settle_ok hx a]
    show a = a ∧ Kept plan t.log rest ∧ changedIn t.log = changedIn s.log
    rw [hlog, changedIn_append]
    exact ⟨rfl, h.snoc rfl nofun, List.append_nil _⟩

/-- What is done between two statements keeps to the plan or breaks the run off. -/
theorem comesTo_step {s : Recorded σ Exchange} {count : Nat} {rest : List Call}
    (h : Kept plan s.log (b.stepCalls count ++ rest)) (hopen : isOpen s.log = true) :
    ComesTo plan statements
      (fun _ t => Kept plan t.log rest ∧ isOpen t.log = true ∧ changedIn t.log = changedIn s.log)
      ((b.step count).run s) := by
  unfold step
  unfold stepCalls at h
  by_cases hend : (b.stepCommit && count % stepLength = 0) = true
  · rw [if_pos hend] at h ⊢
    refine (comesTo_settle () h).bind fun _ t ⟨_, hkept, hchanged⟩ => ?_
    refine (comesTo_begin hkept).bind fun _ u ⟨hkept, hopen, hsame⟩ => ?_
    exact ⟨hkept, hopen, hsame.trans hchanged⟩
  · rw [if_neg hend] at h ⊢
    exact ⟨h, hopen, rfl⟩

/-- What holds between the statements of a run: so many have been executed in an open transaction,
and the calls to come are those for the rest. -/
structure Underway (b : BulkInsert) (plan : List Call) (statements : List String)
    (changed : List UInt64) (rest : List String) (s : Recorded σ Exchange) : Prop where
  rest_eq : statements.drop changed.length = rest
  length_eq : changed.length + rest.length = statements.length
  kept : Kept plan s.log (b.callsAfter changed.length rest)
  changed_eq : changedIn s.log = changed
  isOpen_eq : isOpen s.log = true

/-- A statement that fails breaks the run off. -/
theorem Underway.brokenOff {changed : List UInt64} {sql : String} {rest : List String}
    {s t : Recorded σ Exchange} {e : DbError}
    (h : Underway b plan statements changed (sql :: rest) s)
    (hx : (Executor.execute sql []).run s = (.error e, t)) (event : Event) :
    BrokenOff plan statements (afterRollback (Executor.report event t)).log
      (.batchFailed changed.length sql (failedCounts changed (rest.length + 1)) e) := by
  have hlog : t.log = s.log ++ [.execute sql [] (.error e)] := Recorded.log_of_run_note hx
  obtain ⟨answer, hback⟩ := Recorded.log_afterRollback (Executor.report event t)
  obtain ⟨hrest, hlength, hkept, rfl, hopen⟩ := h
  have hsql : statements[(changedIn s.log).length]? = some sql := by
    rw [← List.head?_drop, hrest, List.head?_cons]
  have hmissing : rest.length + 1 = statements.length - (changedIn s.log).length := by
    rw [List.length_cons] at hlength
    omega
  rw [hback, Recorded.log_report, hlog, List.append_assoc, hmissing]
  cases rest with
  | nil => exact .execute hkept hopen hsql (map_toInt_failedCounts _ _) e answer
  | cons next rest => exact .execute hkept hopen hsql (map_toInt_failedCounts _ _) e answer

/-- A statement that succeeds is counted, and what is to come before the next one is planned. -/
theorem Underway.executed {changed : List UInt64} {sql : String} {rest : List String}
    {s t : Recorded σ Exchange} {n : UInt64}
    (h : Underway b plan statements changed (sql :: rest) s)
    (hx : (Executor.execute sql []).run s = (.ok n, t)) :
    statements.drop (changed ++ [n]).length = rest ∧
      (changed ++ [n]).length + rest.length = statements.length ∧
      changedIn t.log = changed ++ [n] ∧ isOpen t.log = true ∧
      ∀ calls, b.callsAfter changed.length (sql :: rest) = .execute sql [] :: calls →
        Kept plan t.log calls := by
  have hlog : t.log = s.log ++ [.execute sql [] (.ok n)] := Recorded.log_of_run_note hx
  obtain ⟨hrest, hlength, hkept, rfl, hopen⟩ := h
  have hcount : (changedIn s.log ++ [n]).length = (changedIn s.log).length + 1 := by simp
  rw [hlog, isOpen_append, changedIn_append, hcount]
  refine ⟨?_, ?_, rfl, hopen, ?_⟩
  · rw [← List.tail_drop, hrest, List.tail_cons]
  · rw [List.length_cons] at hlength
    omega
  · intro calls hcalls
    rw [hcalls] at hkept
    exact hkept.snoc rfl fun _ => hopen

/-- The statements of a run are all executed, or the run breaks off. -/
theorem comesTo_runInOrder {s : Recorded σ Exchange}
    (h : Underway b plan statements [] statements s) :
    ComesTo plan statements
      (fun changed t => changed.length = statements.length ∧ changedIn t.log = changed ∧
        Kept plan t.log [.commit])
      ((runInOrder b.failure b.step [] (statements.map fun sql => ⟨sql, .empty⟩)).run s) := by
  refine runInOrder_rule
    (fun changed rest s => ∃ later, rest = later.map (fun sql => ⟨sql, .empty⟩) ∧
      Underway b plan statements changed later s)
    (ComesTo plan statements _) ?_ ?_ ?_ ?_ ⟨statements, rfl, h⟩
  · rintro changed s ⟨later, hlater, h⟩
    obtain rfl := List.map_eq_nil_iff.mp hlater.symm
    exact ⟨h.length_eq, h.changed_eq, h.kept⟩
  · rintro changed p rest s e t ⟨later, hlater, h⟩ hx
    obtain ⟨sql, later, rfl, rfl, rfl⟩ := List.map_eq_cons_iff.mp hlater.symm
    rw [List.length_map]
    exact h.brokenOff hx _
  · rintro changed p s n t ⟨later, hlater, h⟩ hx
    obtain ⟨sql, later, rfl, rfl, hnil⟩ := List.map_eq_cons_iff.mp hlater.symm
    obtain rfl := List.map_eq_nil_iff.mp hnil
    obtain ⟨hrest, hlength, hchanged, hopen, hkept⟩ := h.executed hx
    exact ⟨[], rfl, hrest, hlength, hkept _ rfl, hchanged, hopen⟩
  · rintro changed p rest s n t hne ⟨later, hlater, h⟩ hx
    obtain ⟨sql, later, rfl, rfl, rfl⟩ := List.map_eq_cons_iff.mp hlater.symm
    obtain ⟨next, later, rfl⟩ := List.exists_cons_of_ne_nil (mt (congrArg (List.map _)) hne)
    obtain ⟨hrest, hlength, hchanged, hopen, hkept⟩ := h.executed hx
    have hstep : ComesTo plan statements _ _ := comesTo_step (hkept _ rfl) hopen
    constructor
    · intro u hy
      rw [hy] at hstep
      obtain ⟨hkept, hopen, hsame⟩ := hstep
      refine ⟨next :: later, rfl, hrest, hlength, ?_, hsame.trans hchanged, hopen⟩
      rw [List.length_append, List.length_singleton]
      exact hkept
    · intro e u hy
      rw [hy] at hstep
      exact hstep

/-- The calls of a run come to all that was planned, or the run breaks off. -/
theorem comesTo_run (b : BulkInsert) (hne : statements ≠ []) (s : σ) :
    ComesTo ((b.units statements).flatMap unitCalls) statements
      (fun report t => report = b.reportOf (changedIn t.log) ∧
        (changedIn t.log).length = statements.length ∧
        Kept ((b.units statements).flatMap unitCalls) t.log [])
      ((b.run statements).run (⟨s, []⟩ : Recorded σ Exchange)) := by
  have hstart : Kept ((b.units statements).flatMap unitCalls) []
      (.begin :: b.callsAfter 0 statements) := by
    rw [begin_callsAfter b hne]
    exact kept_nil _
  refine (comesTo_begin hstart).bind fun _ t ⟨hkept, hopen, hchanged⟩ => ?_
  refine (comesTo_runInOrder ⟨rfl, Nat.zero_add _, hkept, hchanged, hopen⟩).bind
    fun changed u ⟨hlength, hsame, hkept⟩ => ?_
  refine (comesTo_settle (b.reportOf changed) hkept).imp fun report v ⟨hreport, hkept, hlast⟩ => ?_
  rw [hlast, hsame]
  exact ⟨hreport, hlength, hkept⟩

/-- A run that breaks off has executed the first of the planned statements, each of them inside a
transaction, and one of its calls has failed. -/
theorem BrokenOff.facts {log : List Exchange} {e : DbError} (h : BrokenOff plan statements log e) :
    executedIn log <+: plan.filterMap Call.statement? ∧ StatementsInside log ∧
      ∃ x ∈ log, x.isOk = false := by
  cases h with
  | @begin log rest h e =>
    refine ⟨?_, ?_, _, List.mem_append_right log List.mem_cons_self, rfl⟩
    · rw [← h.executedIn_append, executedIn_append]
      exact ⟨_, List.append_assoc _ _ _⟩
    · exact h.inside.snoc nofun
  | @commit log rest h e answer =>
    refine ⟨?_, ?_, _, List.mem_append_right log List.mem_cons_self, rfl⟩
    · rw [← h.executedIn_append, executedIn_append]
      exact ⟨_, List.append_assoc _ _ _⟩
    · rw [List.append_cons]
      exact (h.inside.snoc (by nofun)).snoc nofun
  | @execute log rest sql counts h hopen hsql hcounts e answer =>
    refine ⟨?_, ?_, _, List.mem_append_right log List.mem_cons_self, rfl⟩
    · rw [← h.executedIn_append, executedIn_append]
      exact ⟨_, List.append_assoc _ _ _⟩
    · rw [List.append_cons]
      exact (h.inside.snoc fun _ => hopen).snoc nofun

/-- Counts add up as they do without bounds, up to the size of a word. -/
private theorem toNat_foldl_add (counts : List UInt64) (n : UInt64) :
    (counts.foldl (· + ·) n).toNat = (n.toNat + (counts.map UInt64.toNat).sum) % UInt64.size := by
  induction counts generalizing n with
  | nil => exact (Nat.mod_eq_of_lt n.toNat_lt).symm
  | cons count counts ih =>
    rw [List.foldl_cons, ih, UInt64.toNat_add, List.map_cons, List.sum_cons, Nat.mod_add_mod,
      Nat.add_assoc]

/-- How a run of an insert keeps to its units of work, by its result and the log of its calls. -/
structure KeepsUnits (b : BulkInsert) (statements : List String) (units : List (List String))
    (r : Except DbError BulkReport) (log : List Exchange) : Prop where
  /-- Statements are executed in order, each at most once. -/
  in_order : executedIn log <+: statements
  /-- They are executed only between a BEGIN that succeeded and the next COMMIT or ROLLBACK. -/
  inside : StatementsInside log
  /-- There is a report exactly if every call succeeded. -/
  ok_iff : (∃ report, r = .ok report) ↔ ∀ x ∈ log, x.isOk = true
  /-- A report counts a run that made all calls of its units, one COMMIT for each. -/
  finished : ∀ report, r = .ok report → log.map Exchange.call = units.flatMap unitCalls ∧
    commitsIn log = units.length ∧ report.statements = statements.length ∧
    report.rows = b.rows.length ∧
    (((changedIn log).map UInt64.toNat).sum < UInt64.size →
      report.affected.toNat = ((changedIn log).map UInt64.toNat).sum)
  /-- Without a report the run broke off at the call that failed. -/
  brokenOff : ∀ e, r = .error e → BrokenOff (units.flatMap unitCalls) statements log e

/-- A run of an insert keeps to units of work that hold its statements in order: a single one, or,
in steps, ten statements in each unit and one to ten in the last. The calls of a unit are a BEGIN,
its statements and a COMMIT. -/
theorem run_keeps_units (b : BulkInsert) (statements : List String) (hne : statements ≠ [])
    (s : σ) :
    ∃ units : List (List String), units.flatten = statements ∧
      (b.stepCommit = false → units = [statements]) ∧
      (b.stepCommit = true → units.length = (statements.length + 9) / 10 ∧
        (∀ unit ∈ units.dropLast, unit.length = 10) ∧
        ∀ unit ∈ units, 1 ≤ unit.length ∧ unit.length ≤ 10) ∧
      ∀ (r : Except DbError BulkReport) (t : Recorded σ Exchange),
        (b.run statements).run ⟨s, []⟩ = (r, t) → b.KeepsUnits statements units r t.log := by
  have hten : 1 ≤ stepLength := by decide
  refine ⟨b.units statements, b.flatten_units statements, ?_, ?_, ?_⟩
  · intro hstep
    rw [units, hstep]
    rfl
  · intro hstep
    rw [units, hstep]
    exact ⟨length_chunks hten statements, fun _ hu => length_of_mem_dropLast_chunks hten hu,
      fun _ hu => length_of_mem_chunks hten hu⟩
  · intro r t hrun
    have hplan := statements_flatMap_unitCalls (b.units statements)
    have hcommits := countP_isCommit_flatMap_unitCalls (b.units statements)
    rw [flatten_units] at hplan
    have hout := comesTo_run b hne s
    rw [hrun] at hout
    cases r with
    | ok report =>
      obtain ⟨rfl, hlength, hkept⟩ := hout
      have hcalls : t.log.map Exchange.call = (b.units statements).flatMap unitCalls := by
        rw [← hkept.plan_eq, List.append_nil]
      refine ⟨?_, hkept.inside, ⟨fun _ => hkept.all_ok, fun _ => ⟨_, rfl⟩⟩, ?_, fun e he => ?_⟩
      · have horder : executedIn t.log = statements := by rw [executedIn, hcalls, hplan]
        exact ⟨[], by rw [List.append_nil, horder]⟩
      · intro report hreport
        obtain rfl := Except.ok.inj hreport
        refine ⟨hcalls, ?_, hlength, rfl, fun hfits => ?_⟩
        · rw [commitsIn, hcalls, hcommits]
        · show ((changedIn t.log).foldl (· + ·) 0).toNat = _
          rw [toNat_foldl_add, UInt64.toNat_zero, Nat.zero_add, Nat.mod_eq_of_lt hfits]
      · cases he
    | error e =>
      have hbroken : BrokenOff _ statements t.log e := hout
      obtain ⟨horder, hinside, x, hx, hfailed⟩ := hbroken.facts
      rw [hplan] at horder
      refine ⟨horder, hinside, ⟨?_, fun hall => ?_⟩, fun report hreport => ?_, fun _ h => ?_⟩
      · rintro ⟨report, hreport⟩
        cases hreport
      · rw [hall x hx] at hfailed
        cases hfailed
      · cases hreport
      · rw [← Except.error.inj h]
        exact hbroken

/-- Twelve statements, the last of which breaks a constraint. -/
def twelveStatements : List String :=
  List.replicate 11 "INSERT INTO t (id) VALUES (1)" ++ ["INSERT INTO t (id) VALUES (NULL)"]

/-- A connection on which the twelfth statement fails, and the rollback after it, too. -/
def failingTwelfth : Script where
  dialect := .postgres
  executions := List.replicate 11 (.ok 18446744073709551615) ++ [.error (.validation "not null")]
  rollbacks := [.error (.connection "gone")]

/-- In steps, the first ten statements stay committed, and the failure of the twelfth is told with
the counts of all twelve. -/
theorem failingTwelfth_keeps_units :
    twelveStatements ≠ [] ∧
    ∃ (units : List (List String)) (counts : List Int64) (t : Recorded Script Exchange),
      units.flatten = twelveStatements ∧ units.length = 2 ∧
      (run { table := "t", columns := ["id"], stepCommit := true } twelveStatements).run
        ⟨failingTwelfth, []⟩ = (.error (.batchFailed 11 "INSERT INTO t (id) VALUES (NULL)" counts
          (.validation "not null")), t) ∧
      counts.map Int64.toInt = List.replicate 11 9223372036854775807 ++ [-1] ∧
      BrokenOff (units.flatMap unitCalls) twelveStatements t.log
        (.batchFailed 11 "INSERT INTO t (id) VALUES (NULL)" counts (.validation "not null")) ∧
      commitsIn t.log = 1 := by
  have hne : twelveStatements ≠ [] := by decide
  obtain ⟨units, hflat, -, hstep, hkeeps⟩ := run_keeps_units
    { table := "t", columns := ["id"], stepCommit := true } twelveStatements hne failingTwelfth
  have hunits := hkeeps _ _ rfl
  exact ⟨hne, units, _, _, hflat, (hstep rfl).1, rfl, by decide, hunits.brokenOff _ rfl, rfl⟩

end BulkInsert

end SqlAccess
