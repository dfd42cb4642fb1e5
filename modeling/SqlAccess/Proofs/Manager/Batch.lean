import SqlAccess.Manager.Batch
import SqlAccess.Proofs.Manager.Serving

/-!
# Batches are all or nothing

A batch with a query is refused, and one without statements is done, before a connection is asked
for. Any other one sends its statements in order as one unit of work, up to the first that fails.
The failure is told with the place and the text of that statement, its error, and the counts of all
statements; a failed rollback changes nothing of that.
-/

namespace SqlAccess

/-- Statements that have run one after another: the rows they changed, and what was sent. -/
inductive Ran (binder : Binder) : List Prepared → List UInt64 → List Sent → Prop
  | nil : Ran binder [] [] []
  | snoc {before : List Prepared} {changed : List UInt64} {sent more : List Sent} {p : Prepared}
    {n : UInt64} (h : Ran binder before changed sent)
    (hp : Executes binder p.sql p.parameters.values more (.ok n)) :
    Ran binder (before ++ [p]) (changed ++ [n]) (sent ++ more)

/-- What statements send between BEGIN and the end of their unit of work: either all of them have
run, or none after the first that failed. -/
inductive InOrder (binder : Binder) (statements : List Prepared) :
    List Sent → Except DbError (List Int64) → Prop
  | all {changed : List UInt64} {sent : List Sent} {counts : List Int64}
    (h : Ran binder statements changed sent)
    (hcounts : counts.map Int64.toInt = changed.map capped) :
    InOrder binder statements sent (.ok counts)
  | failed {before after : List Prepared} {p : Prepared} {changed : List UInt64}
    {sent more : List Sent} {e : DbError} {counts : List Int64}
    (hsplit : statements = before ++ p :: after) (h : Ran binder before changed sent)
    (hp : Executes binder p.sql p.parameters.values more (.error e))
    (hcounts : counts.map Int64.toInt =
      changed.map capped ++ List.replicate (after.length + 1) (-1)) :
    InOrder binder statements (sent ++ more) (.error (.batchFailed before.length p.sql counts e))

variable {β : Type} {binder : Binder} {statements : List Prepared}

/-- There is one count for each statement that has run. -/
theorem Ran.length_eq {changed : List UInt64} {sent : List Sent}
    (h : Ran binder statements changed sent) : changed.length = statements.length := by
  induction h with
  | nil => rfl
  | snoc h hp ih => rw [List.length_append, List.length_append, ih, List.length_singleton,
      List.length_singleton]

/-- Statements that have run control no transactions. -/
theorem Ran.noControl {changed : List UInt64} {sent : List Sent}
    (h : Ran binder statements changed sent) : NoControl sent := by
  induction h with
  | nil => exact noControl_nil
  | snoc h hp ih => exact ih.append hp.noControl

/-- What statements send in order controls no transactions. -/
theorem InOrder.noControl {sent : List Sent} {r : Except DbError (List Int64)}
    (h : InOrder binder statements sent r) : NoControl sent := by
  cases h with
  | all h hcounts => exact h.noControl
  | failed hsplit h hp hcounts => exact h.noControl.append hp.noControl

/-- The counts of statements that have all run, as they are reported. -/
private theorem map_toInt_clampToInt64 (changed : List UInt64) :
    (changed.map Number.clampToInt64).map Int64.toInt = changed.map capped := by
  have h := map_toInt_failedCounts changed 0
  rwa [failedCounts, List.replicate_zero, List.replicate_zero, List.append_nil,
    List.append_nil] at h

variable [Backend β]

/-- What is known of statements under way: those before have run, and all that was sent since the
start was sent for them. -/
structure Partway (binder : Binder) (statements : List Prepared)
    (start : Session (Recorded β Sent)) (changed : List UInt64) (rest : List Prepared)
    (s : Session (Recorded β Sent)) : Prop where
  ran : ∃ before sent, statements = before ++ rest ∧ Ran binder before changed sent ∧
    start.Sends sent s
  binder_eq : s.connection.settings.binder = binder

/-- Statements that run in order come to this: all have run, or the first that failed was rolled
back and told. -/
def RunsThrough (binder : Binder) (statements : List Prepared) (start : Session (Recorded β Sent)) :
    Except DbError (List UInt64) × Session (Recorded β Sent) → Prop
  | (.ok changed, s) => ∃ sent, Ran binder statements changed sent ∧ start.Sends sent s
  | (.error e, s) => ∃ sent answer, InOrder binder statements sent (.error e) ∧
    start.Sends (sent ++ [.control "ROLLBACK" answer]) s ∧ s.connection.inTransaction = false

/-- A statement that fails is rolled back and told. -/
theorem Partway.failed {start s t : Session (Recorded β Sent)} {changed : List UInt64}
    {p : Prepared} {rest : List Prepared} {e : DbError}
    (h : Partway binder statements start changed (p :: rest) s)
    (hrun : (Executor.execute p.sql p.parameters.values).run s = (.error e, t)) (event : Event) :
    RunsThrough binder statements start
      (.error (.batchFailed changed.length p.sql (failedCounts changed (rest.length + 1)) e),
        afterRollback (Executor.report event t)) := by
  obtain ⟨⟨before, sent, hsplit, hran, hsends⟩, rfl⟩ := h
  obtain ⟨more, hp, hmore, -⟩ := Session.does_execute p.sql p.parameters.values s
  have hexecute : (Session.execute p.sql p.parameters.values).run s = (.error e, t) := hrun
  rw [hexecute] at hp hmore
  obtain ⟨answer, hback, hclosed⟩ := Session.sends_afterRollback (Executor.report event t)
  refine ⟨sent ++ more, answer, ?_, (hsends.trans (Session.sends_report hmore event)).trans hback,
    hclosed⟩
  rw [hran.length_eq]
  exact .failed hsplit hran hp (map_toInt_failedCounts _ _)

/-- A statement that succeeds has run. -/
theorem Partway.executed {start s t : Session (Recorded β Sent)} {changed : List UInt64}
    {p : Prepared} {rest : List Prepared} {n : UInt64}
    (h : Partway binder statements start changed (p :: rest) s)
    (hrun : (Executor.execute p.sql p.parameters.values).run s = (.ok n, t)) :
    Partway binder statements start (changed ++ [n]) rest t := by
  obtain ⟨⟨before, sent, hsplit, hran, hsends⟩, rfl⟩ := h
  obtain ⟨more, hp, hmore, -⟩ := Session.does_execute p.sql p.parameters.values s
  have hexecute : (Session.execute p.sql p.parameters.values).run s = (.ok n, t) := hrun
  rw [hexecute] at hp hmore
  refine ⟨⟨before ++ [p], sent ++ more, ?_, hran.snoc hp, hsends.trans hmore⟩, ?_⟩
  · rw [hsplit, List.append_assoc, List.singleton_append]
  · rw [hmore.settings_eq]

/-- To run statements in order is to run through all of them or to stop at the first that fails. -/
theorem runsThrough_runInOrder (statements : List Prepared) (s : Session (Recorded β Sent)) :
    RunsThrough s.connection.settings.binder statements s
      ((runInOrder Batch.failure (fun _ => pure ()) [] statements).run s) := by
  refine runInOrder_rule (Partway s.connection.settings.binder statements s)
    (RunsThrough s.connection.settings.binder statements s) ?done ?failed ?last ?next
    ⟨⟨[], [], rfl, .nil, Session.sends_nil s⟩, rfl⟩
  case done =>
    rintro changed t ⟨⟨before, sent, hsplit, hran, hsends⟩, -⟩
    rw [List.append_nil] at hsplit
    exact ⟨sent, hsplit ▸ hran, hsends⟩
  case failed =>
    intro changed p rest t e u h hrun
    exact h.failed hrun _
  case last =>
    intro changed p t n u h hrun
    exact h.executed hrun
  case next =>
    intro changed p rest t n u _ h hrun
    constructor
    · intro v hv
      obtain rfl := (Prod.mk.inj hv).2
      exact h.executed hrun
    · intro e v hv
      cases hv

/-- A batch that starts outside of a transaction is settled as one unit of work. -/
theorem settles_batch (b : Batch) {s : Session (Recorded β Sent)}
    (hclosed : s.connection.inTransaction = false) :
    ∃ sent, s.Sends sent (b.run.run s).2 ∧
      Settles (InOrder s.connection.settings.binder b.statements) sent (b.run.run s).1 ∧
      (b.run.run s).2.connection.inTransaction = false := by
  obtain ⟨e | _, t, hrun, hbegin, hflag⟩ := Session.sends_begin hclosed
  · have hfail : b.run.run s = (.error e, t) := Action.run_bind_error hrun
    rw [hfail]
    exact ⟨_, hbegin, .notBegun e, hflag⟩
  · have hthrough := runsThrough_runInOrder b.statements t
    rw [hbegin.settings_eq] at hthrough
    rcases hx : (runInOrder Batch.failure (fun _ => pure ()) [] b.statements).run t with
      ⟨e | changed, u⟩
    · rw [hx] at hthrough
      obtain ⟨sent, answer, hinner, hsends, hend⟩ := hthrough
      have hfail : b.run.run s = (.error e, u) :=
        (Action.run_bind_ok hrun).trans (Action.run_bind_error hx)
      rw [hfail]
      have hall := hbegin.trans hsends
      rw [← List.append_assoc] at hall
      exact ⟨_, hall, .settled hinner (.rolledBack e answer), hend⟩
    · rw [hx] at hthrough
      obtain ⟨sent, hran, hsends⟩ := hthrough
      have hsettle : b.run.run s = (settle (.ok (changed.map Number.clampToInt64))).run u :=
        (Action.run_bind_ok hrun).trans (Action.run_bind_ok hx)
      obtain ⟨last, hends, hlast, hend⟩ :=
        Session.sends_settle (.ok (changed.map Number.clampToInt64)) u
      rw [hsettle]
      have hinner := InOrder.all hran (map_toInt_clampToInt64 changed)
      exact ⟨_, (hbegin.trans hsends).trans hlast, .settled hinner hends, hend⟩

namespace Manager

/-- A batch is refused for its first query, and done at once without statements; in both cases no
connection is asked for. Otherwise its statements run in order as one unit of work that has a result
exactly if it is committed; what is sent is what that unit of work sends on its connection. -/
theorem runBatch_all_or_nothing (b : Batch) (m : Manager (Recorded β Sent)) :
    (∀ i p, b.statements[i]? = some p → QueryKind.ofSql p.sql = .select →
      (∀ q ∈ b.statements.take i, QueryKind.ofSql q.sql ≠ .select) →
      (runBatch b).run m = (.error (.validation ("statement " ++ toString i ++
        " is a SELECT; only writes can run in a batch update")), m)) ∧
    (b.statements = [] → (runBatch b).run m = (.ok [], m)) ∧
    ((∀ p ∈ b.statements, QueryKind.ofSql p.sql ≠ .select) → b.statements ≠ [] →
      m.Serves (runBatch b) b.run
        (Settled fun _ => InOrder m.settings.binder b.statements)) := by
  refine ⟨?_, ?_, ?_⟩
  · intro i p hp hselect hbefore
    have hfirst : b.firstQuery? = some i := by
      obtain ⟨hi, rfl⟩ := List.getElem?_eq_some_iff.mp hp
      rw [Batch.firstQuery?, List.findIdx?_eq_some_iff_getElem]
      refine ⟨hi, decide_eq_true hselect, fun j hj => ?_⟩
      have hmem : b.statements[j] ∈ b.statements.take i :=
        List.mem_take_iff_getElem.mpr ⟨j, by omega, rfl⟩
      simpa using hbefore _ hmem
    rw [runBatch, hfirst]
    rfl
  · intro hnil
    have hnone : b.firstQuery? = none := by
      rw [Batch.firstQuery?, hnil]
      rfl
    rw [runBatch, hnone, Batch.isEmpty, hnil]
    rfl
  · intro hwrites hne
    have hnone : b.firstQuery? = none := by
      rw [Batch.firstQuery?, List.findIdx?_eq_none_iff]
      intro p hp
      simpa using hwrites p hp
    have hfull : b.isEmpty = false := by
      rw [Batch.isEmpty]
      simpa using hne
    have hbatch : runBatch (β := Recorded β Sent) b = withConnection b.run := by
      simp only [runBatch, hnone, hfull, Bool.false_eq_true, if_false]
    rw [hbatch]
    refine serves_withConnection fun s hsettings hclosed => ?_
    obtain ⟨sent, hsends, hsettles, hend⟩ := settles_batch b hclosed
    rw [hsettings] at hsettles
    exact ⟨sent, hsends, hsettles, hsettles.isOk_iff fun _ _ h => h.noControl, hend⟩

/-- Two writes, the second of which the server of `refusingSecond` refuses. -/
def twoWrites : Batch := ⟨[⟨"UPDATE t SET n = 1", .empty⟩, ⟨"DELETE FROM u", .empty⟩]⟩

/-- A server that accepts a BEGIN and a statement, refuses the next statement, and answers the
ROLLBACK as given. -/
def refusingSecond (toRollback : PgReply) : List PgReply :=
  [.completed 0, .described ⟨[], []⟩, .completed 18446744073709551615, .described ⟨[], []⟩,
    .refused ⟨"23503", "still referenced", none⟩, toRollback]

/-- The error of the server of `refusingSecond`. -/
def stillReferenced : DbError := .statement .constraint "[23503] still referenced"

/-- The error of `twoWrites`, with the count of the first statement as far as it fits. -/
def secondFailed : DbError :=
  .batchFailed 1 "DELETE FROM u" [9223372036854775807, -1] stillReferenced

/-- What `twoWrites` sends to the server of `refusingSecond`. -/
def sentByTwoWrites (rolledBack : Except DbError Unit) : List Sent :=
  [.control "BEGIN" (.ok ()), .execute "UPDATE t SET n = 1" [] (.ok 18446744073709551615),
    .execute "DELETE FROM u" [] (.error stillReferenced), .control "ROLLBACK" rolledBack]

/-- The run of `twoWrites` on a server that answers the ROLLBACK as given: its error, all that is
sent, and the logs of the connections that wait afterwards. -/
structure RollsBackTwoWrites (toRollback : PgReply) (rolledBack : Except DbError Unit)
    (waiting : List (List Sent)) : Prop where
  run_eq : (runBatch twoWrites).run (lone (refusingSecond toRollback)) =
    (.error secondFailed, (lent (refusingSecond toRollback)).afterwards
      (twoWrites.run.run (untouched (refusingSecond toRollback))).2)
  log_eq : (twoWrites.run.run (untouched (refusingSecond toRollback))).2.log =
    sentByTwoWrites rolledBack
  settled : Settled (fun _ => InOrder ⟨false⟩ twoWrites.statements)
    (untouched (refusingSecond toRollback)) (sentByTwoWrites rolledBack) (.error secondFailed) false
  waiting_eq : ((runBatch twoWrites).run (lone (refusingSecond toRollback))).2.pool.waiting.map
    (fun w => w.backend.log) = waiting

/-- A batch that is served is known by its result, its log and what is left in the pool. -/
theorem RollsBackTwoWrites.of_serves {toRollback : PgReply} {rolledBack : Except DbError Unit}
    {waiting : List (List Sent)}
    (h : (lone (refusingSecond toRollback)).Serves (runBatch twoWrites) twoWrites.run
      (Settled fun _ => InOrder ⟨false⟩ twoWrites.statements))
    (hresult : (twoWrites.run.run (untouched (refusingSecond toRollback))).1 = .error
      (.batchFailed 1 "DELETE FROM u" (failedCounts [18446744073709551615] 1) stillReferenced))
    (hlog : (twoWrites.run.run (untouched (refusingSecond toRollback))).2.log =
      sentByTwoWrites rolledBack)
    (hwaiting : ((runBatch twoWrites).run (lone (refusingSecond toRollback))).2.pool.waiting.map
      (fun w => w.backend.log) = waiting) :
    RollsBackTwoWrites toRollback rolledBack waiting := by
  have hcounts : failedCounts [18446744073709551615] 1 = [9223372036854775807, -1] := by decide
  obtain ⟨hrun, hsettled⟩ := h.of_lone
  rw [hcounts] at hresult
  rw [hresult] at hrun
  rw [hresult, hlog, hsettled.isOpen_eq] at hsettled
  exact ⟨hrun, hlog, hsettled, hwaiting⟩

/-- The second statement is told with the count of the first. After a ROLLBACK the connection waits
for others; a server that hangs up on it is let go, and the error is the same. -/
theorem twoWrites_all_or_nothing :
    (∀ p ∈ twoWrites.statements, QueryKind.ofSql p.sql ≠ .select) ∧ twoWrites.statements ≠ [] ∧
    RollsBackTwoWrites (.completed 0) (.ok ()) [sentByTwoWrites (.ok ())] ∧
    ∃ e, RollsBackTwoWrites .hungUp (.error e) [] := by
  have hwrites : ∀ p ∈ twoWrites.statements, QueryKind.ofSql p.sql ≠ .select := by decide
  have hne : twoWrites.statements ≠ [] := by nofun
  have hserves (toRollback : PgReply) :=
    (runBatch_all_or_nothing twoWrites (lone (refusingSecond toRollback))).2.2 hwrites hne
  refine ⟨hwrites, hne, ?_, ?_⟩
  · exact .of_serves (hserves _) rfl rfl rfl
  · exact ⟨_, .of_serves (hserves _) rfl rfl rfl⟩

end Manager

end SqlAccess
