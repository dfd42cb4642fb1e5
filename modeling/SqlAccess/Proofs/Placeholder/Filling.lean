import SqlAccess.Proofs.Placeholder.Numbering

/-!
# Literal and prepared texts agree

Both texts of a statement come from one fragment, so they are refused together and for the
same reason. When they are written, the literal one is the prepared one with the literal of each
parameter in the place of its placeholder. The exception is a comparison with a point in time,
which is written in another form when its value is a literal.
-/

namespace SqlAccess

/-- Filling a prepared fragment with its values gives its literal form. -/
theorem Fragment.Carries.substitute_prepare {f : Fragment} {texts : List String}
    {bound : List Value} (hf : f.Carries texts bound []) {d : Dialect}
    (ht : ∀ t ∈ texts, d.mark ∉ t.toList) :
    d.substitute (f.prepare d).sql (f.prepare d).parameters.values = f.literal d := by
  rw [Dialect.substitute, Fragment.prepare, Fragment.pieces_prepared hf.separated (hf.free d ht),
    Fragment.fill_pieces d hf.instants_eq, String.ofList_toList]

/-- Where no condition compares a point in time, none is carried. -/
theorem Form.instants_eq_nil {s : Form} (h : ∀ c ∈ s.conditions, c.comparesInstant = false) :
    s.instants = [] := by
  unfold Form.instants
  rw [List.flatMap_eq_nil_iff]
  intro c hc
  rw [Condition.instants, h c hc]
  rfl

/-- The two ways of writing a statement agree in each dialect: both refuse it with one error, or
both write it, and then, unless a fixed text holds the mark of the dialect or a point in time
is compared directly, the text with literals is the prepared text with the literal of the `k`-th
parameter in the place of the `k`-th placeholder, all replaced in one pass. -/
theorem literal_eq_filled_prepared (s : Form) (d : Dialect) :
    (∃ e : DbError, s.literalFor d = .error e ∧ s.prepareFor d = .error e) ∨
      ∃ (sql : String) (p : Prepared), s.literalFor d = .ok sql ∧ s.prepareFor d = .ok p ∧
        ((∀ t ∈ s.fixedTexts, d.mark ∉ t.toList) →
          (∀ c ∈ s.conditions, c.comparesInstant = false) →
          sql = d.substitute p.sql p.parameters.values) := by
  rw [s.literalFor_eq d, s.prepareFor_eq d]
  cases hf : s.fragment with
  | error e => exact .inl ⟨e, rfl, rfl⟩
  | ok f =>
    refine .inr ⟨f.literal d, f.prepare d, rfl, rfl, ?_⟩
    intro ht hc
    have hcarries := s.carries_of_fragment hf
    rw [Form.instants_eq_nil hc] at hcarries
    exact (hcarries.substitute_prepare ht).symm

set_option maxRecDepth 8000 in
/-- The update whose values look like placeholders is filled in one pass. -/
theorem nestedUpdate_literal_eq_filled :
    ∃ (sql : String) (p : Prepared), nestedUpdate.literalFor .postgres = .ok sql ∧
      nestedUpdate.prepareFor .postgres = .ok p ∧
      (∀ t ∈ nestedUpdate.fixedTexts, Dialect.mark .postgres ∉ t.toList) ∧
      (∀ c ∈ nestedUpdate.conditions, c.comparesInstant = false) ∧
      sql = Dialect.substitute .postgres p.sql p.parameters.values := by
  have hsql : nestedUpdate.literalFor .postgres = .ok
      ("UPDATE users SET name = 'O''Neil', seen = NOW(), hits = hits + TRUE WHERE " ++
        "kind IN ('a$9','b') OR (day BETWEEN '1' AND '2' OR name LIKE 'x?') AND 1 = 1") := rfl
  have ht : ∀ t ∈ nestedUpdate.fixedTexts, Dialect.mark .postgres ∉ t.toList := by decide
  have hc : ∀ c ∈ nestedUpdate.conditions, c.comparesInstant = false := by decide
  rcases literal_eq_filled_prepared nestedUpdate .postgres with ⟨e, he, -⟩ | ⟨sql, p, hl, hp, h⟩
  · rw [hsql] at he
    cases he
  · exact ⟨sql, p, hl, hp, ht, hc, h ht hc⟩

end SqlAccess
