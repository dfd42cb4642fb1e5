import SqlAccess.Proofs.Bulk.Chunks
import SqlAccess.Proofs.UnitOfWork.Exchange

/-!
# Units of an insert

The statements of an insert of many rows fall into units of work: all of them into one, or, in
steps, ten into each unit and what is left into the last. The calls of a unit are a BEGIN, its
statements and a COMMIT. A run decides after each statement whether a step is full; what it does
then adds up to the calls of the units.
-/

namespace SqlAccess

/-- The calls of a unit of work: its statements between BEGIN and COMMIT. -/
def unitCalls (unit : List String) : List Call :=
  .begin :: (unit.map fun sql => Call.execute sql []) ++ [.commit]

/-- The statements of a unit are those that its calls execute. -/
theorem statements_unitCalls (unit : List String) :
    (unitCalls unit).filterMap Call.statement? = unit := by
  have hmap : ((unit.map fun sql => Call.execute sql []).filterMap Call.statement?) = unit := by
    rw [List.filterMap_map]
    exact List.filterMap_some
  rw [unitCalls, List.cons_append, List.filterMap_cons_none rfl, List.filterMap_append, hmap]
  exact List.append_nil unit

/-- A unit is committed once. -/
theorem countP_isCommit_unitCalls (unit : List String) :
    (unitCalls unit).countP Call.isCommit = 1 := by
  have hmap : (unit.map fun sql => Call.execute sql []).countP Call.isCommit = 0 := by
    rw [List.countP_map, List.countP_eq_zero]
    exact fun _ _ => Bool.false_ne_true
  rw [unitCalls, List.cons_append, List.countP_cons_of_neg Bool.false_ne_true, List.countP_append,
    hmap]
  rfl

/-- The statements of several units are those of one after those of another. -/
theorem statements_flatMap_unitCalls (units : List (List String)) :
    (units.flatMap unitCalls).filterMap Call.statement? = units.flatten := by
  induction units with
  | nil => rfl
  | cons unit units ih =>
    rw [List.flatMap_cons, List.filterMap_append, statements_unitCalls, ih, List.flatten_cons]

/-- There are as many COMMITs as units. -/
theorem countP_isCommit_flatMap_unitCalls (units : List (List String)) :
    (units.flatMap unitCalls).countP Call.isCommit = units.length := by
  induction units with
  | nil => rfl
  | cons unit units ih =>
    rw [List.flatMap_cons, List.countP_append, countP_isCommit_unitCalls, ih, List.length_cons,
      Nat.add_comm]

namespace BulkInsert

/-- The statements of an insert, one list for each unit of work. -/
def units (b : BulkInsert) (statements : List String) : List (List String) :=
  if b.stepCommit then chunks stepLength statements else [statements]

/-- The statements of the units are all statements in order. -/
theorem flatten_units (b : BulkInsert) (statements : List String) :
    (b.units statements).flatten = statements := by
  unfold units
  split
  · exact flatten_chunks stepLength statements
  · exact List.append_nil statements

/-- The calls between a number of statements and the next one. -/
def stepCalls (b : BulkInsert) (count : Nat) : List Call :=
  if b.stepCommit && count % stepLength = 0 then [.commit, .begin] else []

/-- The calls to come when a number of statements has been executed and others are left. -/
def callsAfter (b : BulkInsert) (count : Nat) : List String → List Call
  | [] => [.commit]
  | [sql] => [.execute sql [], .commit]
  | sql :: next :: rest =>
    .execute sql [] :: b.stepCalls (count + 1) ++ callsAfter b (count + 1) (next :: rest)

variable {b : BulkInsert}

/-- As long as no step ends, statements follow one another. -/
theorem callsAfter_append {count : Nat} {unit : List String} (hne : unit ≠ [])
    (hend : ∀ k, count < k → k < count + unit.length → b.stepCalls k = [])
    (later : List String) (hlater : later ≠ []) :
    b.callsAfter count (unit ++ later) = (unit.map fun sql => Call.execute sql []) ++
      b.stepCalls (count + unit.length) ++ b.callsAfter (count + unit.length) later := by
  obtain ⟨sql, later, rfl⟩ := List.exists_cons_of_ne_nil hlater
  induction unit generalizing count with
  | nil => exact absurd rfl hne
  | cons first unit ih =>
    cases unit with
    | nil => rfl
    | cons second unit =>
      have hfirst : b.stepCalls (count + 1) = [] :=
        hend (count + 1) (Nat.lt_succ_self count) (by simp)
      have hrest := @ih (count + 1) (by simp) fun k hlo hhi =>
        hend k (by omega) (by simp only [List.length_cons] at hhi ⊢; omega)
      have hcount : count + (first :: second :: unit).length =
          count + 1 + (second :: unit).length := by
        simp only [List.length_cons]
        omega
      rw [hcount, List.cons_append, List.cons_append, callsAfter, hfirst, ← List.cons_append, hrest]
      rfl

/-- As long as no step ends, the last statements are followed by the COMMIT. -/
theorem callsAfter_last {count : Nat} {unit : List String}
    (hend : ∀ k, count < k → k < count + unit.length → b.stepCalls k = []) :
    b.callsAfter count unit = (unit.map fun sql => Call.execute sql []) ++ [.commit] := by
  rcases List.eq_nil_or_concat unit with rfl | ⟨unit, sql, rfl⟩
  · rfl
  · rw [List.concat_eq_append] at hend ⊢
    by_cases hne : unit = []
    · subst hne
      rfl
    · have hpos : 0 < unit.length := List.length_pos_iff.mpr hne
      rw [List.length_append, List.length_singleton] at hend
      rw [callsAfter_append hne (fun k hlo hhi => hend k hlo (by omega)) [sql] (by simp),
        hend _ (by omega) (by omega), List.map_append]
      simp [callsAfter]

/-- In steps, the calls from the start of a unit on are those of pieces of ten statements. -/
theorem begin_callsAfter_step (hstep : b.stepCommit = true) {statements : List String}
    (hne : statements ≠ []) {count : Nat} (hcount : count % stepLength = 0) :
    .begin :: b.callsAfter count statements = (chunks stepLength statements).flatMap unitCalls := by
  induction statements using chunks.induct stepLength generalizing count with
  | case1 => exact absurd rfl hne
  | case2 sql rest ih =>
    have hten : stepLength = 10 := rfl
    rw [hten] at hcount ih ⊢
    have hsplit : sql :: rest = (sql :: rest.take (10 - 1)) ++ rest.drop (10 - 1) := by
      rw [List.cons_append, List.take_append_drop]
    have hshort : (sql :: rest.take (10 - 1)).length ≤ 10 := by
      rw [List.length_cons, List.length_take]
      omega
    have hend : ∀ k, count < k → k < count + (sql :: rest.take (10 - 1)).length →
        b.stepCalls k = [] := by
      intro k hlo hhi
      have hk : ¬ k % 10 = 0 := by omega
      simp [stepCalls, hten, hk]
    rw [chunks, List.flatMap_cons]
    by_cases hlater : rest.drop (10 - 1) = []
    · rw [hlater, List.append_nil] at hsplit
      rw [hlater, chunks, hsplit, callsAfter_last hend]
      exact (List.append_nil _).symm
    · have hfull : (sql :: rest.take (10 - 1)).length = 10 := by
        rw [List.drop_eq_nil_iff] at hlater
        rw [List.length_cons, List.length_take]
        omega
      have hstops : b.stepCalls (count + 10) = [.commit, .begin] := by
        have hk : (count + 10) % 10 = 0 := by omega
        simp [stepCalls, hten, hstep, hk]
      have hrest := @ih hlater (count + 10) (by omega)
      rw [← hrest, hsplit, callsAfter_append (List.cons_ne_nil _ _) hend _ hlater, hfull, hstops]
      simp [unitCalls]

/-- The calls of a run are those of its units. -/
theorem begin_callsAfter (b : BulkInsert) {statements : List String} (hne : statements ≠ []) :
    .begin :: b.callsAfter 0 statements = (b.units statements).flatMap unitCalls := by
  unfold units
  by_cases hstep : b.stepCommit = true
  · rw [if_pos hstep]
    exact begin_callsAfter_step hstep hne rfl
  · have hnone : ∀ k, 0 < k → k < 0 + statements.length → b.stepCalls k = [] := by
      intro k _ _
      simp [stepCalls, hstep]
    rw [if_neg hstep, callsAfter_last hnone]
    exact (List.append_nil _).symm

end BulkInsert

end SqlAccess
