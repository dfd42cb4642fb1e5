import SqlAccess.UnitOfWork

/-!
# Rules for units of work

What a unit of work comes to, from what the calls in it come to. Settling asks for one commit, or
for one rollback, or for both. Statements that run in order keep an invariant from one to the next;
the rule leaves it to its user what the invariant says and what is said of a run that breaks off.
-/

namespace SqlAccess

variable {σ α : Type} [Executor σ]

/-- The state after a rollback whose failure is only reported. -/
def afterRollback (s : σ) : σ :=
  match (Executor.rollback (σ := σ)).run s with
  | (.ok _, t) => t
  | (.error e, t) => Executor.report (.ofMessage .warn "rollback failed" [("error", e.message)]) t

/-- To roll back quietly never fails. -/
theorem run_rollbackQuietly (s : σ) : rollbackQuietly.run s = (.ok (), afterRollback s) := by
  unfold rollbackQuietly afterRollback
  rw [Action.run_bind_ok (Action.run_attempt _ s)]
  rcases Executor.rollback.run s with ⟨_ | _, t⟩ <;> rfl

/-- Whether or not a rollback fails, nothing but a report follows it. -/
theorem afterRollback_cases (s : σ) :
    afterRollback s = (Executor.rollback.run s).2 ∨
      ∃ event, afterRollback s = Executor.report event (Executor.rollback.run s).2 := by
  unfold afterRollback
  rcases Executor.rollback.run s with ⟨_ | _, t⟩
  · exact .inr ⟨_, rfl⟩
  · exact .inl rfl

/-- After an error there is a rollback, and the error stays the same. -/
theorem run_settle_error (e : DbError) (s : σ) :
    (settle (.error e : Except DbError α)).run s = (.error e, afterRollback s) :=
  Action.run_bind_ok (run_rollbackQuietly s)

/-- A commit that succeeds is all that a result needs. -/
theorem run_settle_ok {s t : σ} (h : Executor.commit.run s = (.ok (), t)) (a : α) :
    (settle (.ok a)).run s = (.ok a, t) := by
  have hattempt : (Action.attempt Executor.commit).run s = (.ok (.ok ()), t) := by
    rw [Action.run_attempt, h]
  exact Action.run_bind_ok hattempt

/-- A commit that fails is rolled back, and its error is the one that stays. -/
theorem run_settle_failed {s t : σ} {e : DbError} (h : Executor.commit.run s = (.error e, t))
    (a : α) : (settle (.ok a)).run s = (.error e, afterRollback t) := by
  have hattempt : (Action.attempt Executor.commit).run s = (.ok (.error e), t) := by
    rw [Action.run_attempt, h]
  exact (Action.run_bind_ok hattempt).trans (Action.run_bind_ok (run_rollbackQuietly t))

/-- A number of rows as it is reported, at most the largest signed word. -/
def capped (n : UInt64) : Int := min n.toNat 9223372036854775807

/-- A number of rows is counted as far as it fits. -/
theorem toInt_clampToInt64 (n : UInt64) : (Number.clampToInt64 n).toInt = capped n := by
  have hmax : Int64.maxValue.toInt = 9223372036854775807 := by decide
  rw [Number.clampToInt64, Number.int64?, capped]
  by_cases h : -9223372036854775808 ≤ (n.toNat : Int) ∧ (n.toNat : Int) < 9223372036854775808
  · rw [if_pos h, Option.getD_some, Int64.toInt_ofInt_of_le (by omega) (by omega)]
    omega
  · rw [if_neg h, Option.getD_none, hmax]
    omega

/-- The counts after a failure are those of the statements that ran, and -1 for the others. -/
theorem map_toInt_failedCounts (changed : List UInt64) (missing : Nat) :
    (failedCounts changed missing).map Int64.toInt =
      changed.map capped ++ List.replicate missing (-1) := by
  have hclamp : Int64.toInt ∘ Number.clampToInt64 = capped := by
    funext n
    rw [Function.comp_apply, toInt_clampToInt64]
  have hmissing : (-1 : Int64).toInt = -1 := by decide
  rw [failedCounts, List.map_append, List.map_map, hclamp, List.map_replicate, hmissing]

/-- Running statements in order keeps an invariant on the counts so far, the statements to come and
the state, if each statement that succeeds keeps it, together with what is done before the next one.
What ends the run, successfully or not, is judged by a second predicate. -/
theorem runInOrder_rule {warning : Nat → DbError → Event} {between : Nat → Action σ Unit}
    (I : List UInt64 → List Prepared → σ → Prop) (Q : Except DbError (List UInt64) × σ → Prop)
    (done : ∀ changed s, I changed [] s → Q (.ok changed, s))
    (failed : ∀ changed p rest s e t, I changed (p :: rest) s →
      (Executor.execute p.sql p.parameters.values).run s = (.error e, t) →
      Q (.error (.batchFailed changed.length p.sql (failedCounts changed (rest.length + 1)) e),
        afterRollback (Executor.report (warning changed.length e) t)))
    (last : ∀ changed p s n t, I changed [p] s →
      (Executor.execute p.sql p.parameters.values).run s = (.ok n, t) → I (changed ++ [n]) [] t)
    (next : ∀ changed p rest s n t, rest ≠ [] → I changed (p :: rest) s →
      (Executor.execute p.sql p.parameters.values).run s = (.ok n, t) →
      (∀ u, (between (changed.length + 1)).run t = (.ok (), u) → I (changed ++ [n]) rest u) ∧
        ∀ e u, (between (changed.length + 1)).run t = (.error e, u) → Q (.error e, u))
    {changed : List UInt64} {statements : List Prepared} {s : σ} (h : I changed statements s) :
    Q ((runInOrder warning between changed statements).run s) := by
  induction statements generalizing changed s with
  | nil => exact done changed s h
  | cons p rest ih =>
    rw [runInOrder, Action.run_bind_ok (Action.run_attempt _ s)]
    rcases hx : (Executor.execute p.sql p.parameters.values).run s with ⟨e | n, t⟩
    · have hend := failed changed p rest s e t h hx
      rw [Action.run_bind_ok (Action.run_change _ t), Action.run_bind_ok (run_rollbackQuietly _)]
      exact hend
    · by_cases hrest : rest = []
      · subst hrest
        exact ih (last changed p s n t h hx)
      · obtain ⟨hgo, hstop⟩ := next changed p rest s n t hrest h hx
        have hb : rest.isEmpty = false := by simpa using hrest
        simp only [hb, Bool.false_eq_true, if_false]
        rcases hy : (between (changed.length + 1)).run t with ⟨e | _, u⟩
        · rw [Action.run_bind_error hy]
          exact hstop e u hy
        · rw [Action.run_bind_ok hy]
          exact ih (hgo u hy)

end SqlAccess
