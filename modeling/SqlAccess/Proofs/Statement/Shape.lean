import Mathlib.Logic.Basic
import SqlAccess.Proofs.Statement.Outline

/-!
# The shapes of a condition

A condition that can be written has one of six shapes, and its operator and the class of its
value say which. `Condition.Shape` lists them with all that is known in each; every later fact
about written conditions is a case analysis on it and does not look at the renderer again.
-/

namespace SqlAccess

/-- Every operator is of one kind. -/
theorem Operator.kinds (op : Operator) :
    (op = .isNull ∨ op = .isNotNull) ∨ op.isRaw = true ∨ op.isComparison = true ∨
      (op = .like ∨ op = .notLike) ∨ op = .between ∨ op = .isIn ∨ op = .notIn := by
  cases op <;> decide

namespace Condition

/-- The shapes in which a condition is written. -/
inductive Shape (c : Condition) : Fragment → Prop
  /-- A test for NULL, by the operator or by the value. -/
  | test (ending : String) (hend : ending = " IS NULL" ∨ ending = " IS NOT NULL")
      (hc : c.op = .isNull ∨ c.op = .isNotNull ∨ c.value.isNull = true) :
      Shape c [.text (c.trimmedColumn ++ ending)]
  /-- A value that is written as it is. -/
  | raw (hn : c.value.isNull = false) (hc : c.op.isRaw = true) :
      Shape c (rawFragment c.trimmedColumn c.op c.value)
  /-- A range. -/
  | range {f : Fragment} (hn : c.value.isNull = false) (hc : c.op = .between)
      (hf : rangeFragment c.trimmedColumn c.value = .ok f) : Shape c f
  /-- A membership. -/
  | member (hn : c.value.isNull = false) (hc : c.op = .isIn ∨ c.op = .notIn) :
      Shape c (memberFragment c.trimmedColumn c.op c.value)
  /-- A comparison with a point in time. -/
  | instant (hn : c.value.isNull = false) (hc : c.comparesInstant = true) :
      Shape c [.instant c.trimmedColumn c.op.symbol c.value]
  /-- A comparison or a pattern with any other single value. -/
  | bound (hn : c.value.isNull = false)
      (hc : c.op.isComparison = true ∨ c.op = .like ∨ c.op = .notLike)
      (hi : c.comparesInstant = false) (hl : c.value.kind ≠ .list) :
      Shape c (boundFragment c.trimmedColumn c.op c.value)

variable {c : Condition}

/-- Without a column there is no condition. -/
theorem render_of_isEmpty (he : c.trimmedColumn.isEmpty = true) :
    c.render = .error .emptyColumn := by
  rw [render, if_pos he]

/-- With NULL every operator but the tests themselves becomes a test for NULL. -/
theorem render_of_isNull (he : c.trimmedColumn.isEmpty = false) (hn : c.value.isNull = true)
    (hc : c.op ≠ .isNull) (hc' : c.op ≠ .isNotNull) :
    c.render = .ok (nullFragment c.trimmedColumn c.op) := by
  simp only [render, he, hn]
  cases h : c.op <;> simp_all

/-- A raw operator takes any value as it is. -/
theorem render_of_isRaw (he : c.trimmedColumn.isEmpty = false) (hn : c.value.isNull = false)
    (hc : c.op.isRaw = true) : c.render = .ok (rawFragment c.trimmedColumn c.op c.value) := by
  simp only [render, he, hn]
  cases h : c.op <;> simp_all [Operator.isRaw]

/-- A comparison takes any value but a list, and a point in time in a form of its own. -/
theorem render_of_isComparison (he : c.trimmedColumn.isEmpty = false)
    (hn : c.value.isNull = false) (hc : c.op.isComparison = true) :
    c.render =
      match c.value.kind with
      | .list => .error (.list c.op)
      | .temporal => .ok [.instant c.trimmedColumn c.op.symbol c.value]
      | _ => .ok (boundFragment c.trimmedColumn c.op c.value) := by
  simp only [render, he, hn]
  cases h : c.op <;> simp_all [Operator.isComparison, Operator.isRaw] <;> cases c.value.kind <;> rfl

/-- A pattern takes text only. -/
theorem render_of_pattern (he : c.trimmedColumn.isEmpty = false)
    (hn : c.value.isNull = false) (hc : c.op = .like ∨ c.op = .notLike) :
    c.render =
      match c.value.kind with
      | .numeric | .temporal => .error (.unsuited c.op c.value)
      | .list => .error (.list c.op)
      | _ => .ok (boundFragment c.trimmedColumn c.op c.value) := by
  simp only [render, he, hn]
  rcases hc with hc | hc <;> rw [hc] <;> cases c.value.kind <;> rfl

/-- A range takes text or a list of bounds. -/
theorem render_of_between (he : c.trimmedColumn.isEmpty = false)
    (hn : c.value.isNull = false) (hc : c.op = .between) :
    c.render =
      match c.value.kind with
      | .numeric | .temporal => .error (.unsuited c.op c.value)
      | _ => rangeFragment c.trimmedColumn c.value := by
  simp only [render, he, hn, hc]
  cases c.value.kind <;> rfl

/-- A membership takes every value. -/
theorem render_of_member (he : c.trimmedColumn.isEmpty = false)
    (hn : c.value.isNull = false) (hc : c.op = .isIn ∨ c.op = .notIn) :
    c.render = .ok (memberFragment c.trimmedColumn c.op c.value) := by
  simp only [render, he, hn]
  rcases hc with hc | hc <;> rw [hc] <;> rfl

/-- A comparison that is written compares a point in time or binds its value. -/
theorem shape_of_isComparison {f : Fragment} (he : c.trimmedColumn.isEmpty = false)
    (hn : c.value.isNull = false) (hc : c.op.isComparison = true) (h : c.render = .ok f) :
    c.Shape f := by
  rw [render_of_isComparison he hn hc] at h
  by_cases hl : c.value.kind = .list
  · rw [hl] at h
    cases h
  by_cases ht : c.value.kind = .temporal
  · rw [ht] at h
    cases h
    exact .instant hn (by simp [comparesInstant, Value.isTemporal, hc, ht])
  have hi : c.comparesInstant = false := by simp [comparesInstant, Value.isTemporal, ht]
  cases hk : c.value.kind with
  | list => exact absurd hk hl
  | temporal => exact absurd hk ht
  | null | numeric | text =>
    rw [hk] at h
    cases h
    exact .bound hn (.inl hc) hi hl

/-- A pattern that is written binds its value. -/
theorem shape_of_pattern {f : Fragment} (he : c.trimmedColumn.isEmpty = false)
    (hn : c.value.isNull = false) (hc : c.op = .like ∨ c.op = .notLike) (h : c.render = .ok f) :
    c.Shape f := by
  rw [render_of_pattern he hn hc] at h
  have hi : c.comparesInstant = false := by
    rcases hc with hc | hc <;> simp [comparesInstant, hc, Operator.isComparison]
  cases hk : c.value.kind with
  | list | numeric | temporal =>
    rw [hk] at h
    cases h
  | null | text =>
    rw [hk] at h
    cases h
    exact .bound hn (.inr hc) hi (by simp [hk])

/-- A range that is written has bounds. -/
theorem shape_of_between {f : Fragment} (he : c.trimmedColumn.isEmpty = false)
    (hn : c.value.isNull = false) (hc : c.op = .between) (h : c.render = .ok f) :
    c.Shape f := by
  rw [render_of_between he hn hc] at h
  cases hk : c.value.kind with
  | numeric | temporal =>
    rw [hk] at h
    cases h
  | null | text | list =>
    rw [hk] at h
    exact .range hn hc h

/-- Whatever is written for a condition has one of the shapes. -/
theorem shape_of_render {f : Fragment} (h : c.render = .ok f) : c.Shape f := by
  cases he : c.trimmedColumn.isEmpty with
  | true =>
    rw [render_of_isEmpty he] at h
    cases h
  | false =>
    by_cases ht : c.op = .isNull ∨ c.op = .isNotNull
    · rcases ht with ht | ht
      · simp only [render, he, ht] at h
        cases h
        exact .test " IS NULL" (.inl rfl) (.inl ht)
      · simp only [render, he, ht] at h
        cases h
        exact .test " IS NOT NULL" (.inr rfl) (.inr (.inl ht))
    · cases hn : c.value.isNull with
      | true =>
        rw [render_of_isNull he hn (fun hc => ht (.inl hc)) (fun hc => ht (.inr hc))] at h
        cases h
        exact .test _ (ite_eq_or_eq ..) (.inr (.inr hn))
      | false =>
        rcases c.op.kinds with hc | hc | hc | hc | hc | hc
        · exact absurd hc ht
        · rw [render_of_isRaw he hn hc] at h
          cases h
          exact .raw hn hc
        · exact shape_of_isComparison he hn hc h
        · exact shape_of_pattern he hn hc h
        · exact shape_of_between he hn hc h
        · rw [render_of_member he hn hc] at h
          cases h
          exact .member hn hc

end Condition

end SqlAccess
