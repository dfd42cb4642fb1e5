import SqlAccess.Error

/-!
# Actions

An action works on a state. It ends with a result or with an error, and leaves a state either way,
so what was done before an error stays done. Actions follow one another until the first error.
-/

namespace SqlAccess

/-- Something done to a state, with a result or an error, and the state that it leaves. -/
def Action (σ α : Type) : Type := σ → Except DbError α × σ

namespace Action

variable {σ τ α β γ : Type}

/-- Does an action. -/
def run (a : Action σ α) (s : σ) : Except DbError α × σ := a s

/-- Ends with a result or an error that is known, and leaves the state as it is. -/
def ofExcept (r : Except DbError α) : Action σ α := fun s => (r, s)

/-- Ends with an error. -/
def fail (e : DbError) : Action σ α := ofExcept (.error e)

/-- One action and then another, unless the first one fails. -/
protected def bind (a : Action σ α) (f : α → Action σ β) : Action σ β := fun s =>
  match a s with
  | (.ok x, s) => f x s
  | (.error e, s) => (.error e, s)

instance : Monad (Action σ) where
  pure x := ofExcept (.ok x)
  bind := Action.bind

/-- Reads something off the state. -/
def look (f : σ → α) : Action σ α := fun s => (.ok (f s), s)

/-- Changes the state. -/
def change (f : σ → σ) : Action σ Unit := fun s => (.ok (), f s)

/-- An action that hands over its error as a result. -/
def attempt (a : Action σ α) : Action σ (Except DbError α) := fun s => ((.ok (a s).1), (a s).2)

/-- An action on a part of a state. -/
def zoom (part : τ → σ) (put : σ → τ → τ) (a : Action σ α) : Action τ α := fun t =>
  ((a (part t)).1, put (a (part t)).2 t)

/-- A result that is known ends an action, and the state stays. -/
theorem run_pure (x : α) (s : σ) : (pure x : Action σ α).run s = (.ok x, s) := rfl

/-- A result or an error that is known ends an action, and the state stays. -/
@[simp] theorem run_ofExcept (r : Except DbError α) (s : σ) : (ofExcept r).run s = (r, s) := rfl

/-- To read something off a state leaves it as it is. -/
@[simp] theorem run_look (f : σ → α) (s : σ) : (look f).run s = (.ok (f s), s) := rfl

/-- A change of the state always succeeds. -/
@[simp] theorem run_change (f : σ → σ) (s : σ) : (change f).run s = (.ok (), f s) := rfl

/-- After a result the next action starts where the first one ended. -/
theorem run_bind_ok {a : Action σ α} {f : α → Action σ β} {s t : σ} {x : α}
    (h : a.run s = (.ok x, t)) : (a >>= f).run s = (f x).run t := by
  show Action.bind a f s = f x t
  simp only [run] at h
  simp [Action.bind, h]

/-- An error ends what was to follow, and the state stays as the error left it. -/
theorem run_bind_error {a : Action σ α} {f : α → Action σ β} {s t : σ} {e : DbError}
    (h : a.run s = (.error e, t)) : (a >>= f).run s = (.error e, t) := by
  show Action.bind a f s = (.error e, t)
  simp only [run] at h
  simp [Action.bind, h]

/-- What is read off a state is handed on, and the state stays. -/
theorem run_look_bind (f : σ → α) {g : α → Action σ β} {s : σ} {x : α} (h : f s = x) :
    (look f >>= g).run s = (g x).run s := by
  subst h
  exact run_bind_ok (run_look f s)

/-- An action whose result is forgotten ends and fails as before. -/
theorem run_forget (a : Action σ α) (s : σ) :
    (a >>= fun _ => pure ()).run s = ((a.run s).1.map fun _ => (), (a.run s).2) := by
  rcases hx : a.run s with ⟨e | x, t⟩
  · exact run_bind_error hx
  · exact run_bind_ok hx

/-- It does not matter how actions that follow one another are grouped. -/
protected theorem bind_assoc (a : Action σ α) (f : α → Action σ β) (g : β → Action σ γ) :
    a >>= f >>= g = a >>= fun x => f x >>= g := by
  funext s
  rcases hx : a.run s with ⟨e | x, t⟩
  · exact (run_bind_error (run_bind_error hx)).trans (run_bind_error hx).symm
  · refine Eq.trans ?_ (run_bind_ok hx).symm
    rcases hy : (f x).run t with ⟨e | y, u⟩
    · exact (run_bind_error ((run_bind_ok hx).trans hy)).trans (run_bind_error hy).symm
    · exact (run_bind_ok ((run_bind_ok hx).trans hy)).trans (run_bind_ok hy).symm

/-- An attempt never fails, and leaves the state that the action leaves. -/
theorem run_attempt (a : Action σ α) (s : σ) :
    a.attempt.run s = (.ok (a.run s).1, (a.run s).2) := rfl

end Action

end SqlAccess
