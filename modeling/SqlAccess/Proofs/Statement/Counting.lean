import Mathlib.Data.List.Basic
import SqlAccess.Proofs.Placeholder.Fragment
import SqlAccess.Statement.Select

/-!
# A query and its count

A query and its count are written around one body, which holds the source, the joins, the filter,
the groups and the filter on groups. `bodyText` writes the body out around the texts of its two
filters, `pageText` and `countText` write what stands around the body, and both ways of writing a
statement come to these texts. A call that orders rows or cuts a window out of them leaves
the body alone, so the count is the one of the same calls without it.
-/

namespace SqlAccess

/-- Two renderings one after another end as the first of them that fails. -/
theorem Rendering.result_append (r s : Rendering) :
    (r ++ s).result = r.result.bind fun f => s.result.map fun g => f ++ g := by
  cases r <;> cases s <;> rfl

namespace Select

/-! ## The texts that are expected -/

/-- The body of a query around the texts of its filters. A filter without entries, like a list
without groups, leaves its keyword out. -/
def bodyText (q : Select) (filterText groupFilterText : String) : String :=
  " FROM " ++ q.source ++ String.join (q.joins.map fun j => " " ++ j) ++
    (if q.filter.isEmpty then "" else " WHERE " ++ filterText) ++
    (if q.groups.isEmpty then "" else " GROUP BY " ++ Text.joinWith ", " q.groups) ++
    (if q.groupFilter.isEmpty then "" else " HAVING " ++ groupFilterText)

/-- A query around its body. -/
def pageText (q : Select) (d : Dialect) (body : String) : String :=
  "SELECT " ++ q.columnList ++ body ++
    (if q.order.isEmpty then "" else " ORDER BY " ++ Text.joinWith ", " q.order) ++
    d.window q.window

/-- A count around the body of its query. With groups, a filter on groups or distinct rows the
query is counted as a table. -/
def countText (q : Select) (body : String) : String :=
  if q.groups ≠ [] ∨ q.groupFilter.entries ≠ [] ∨ q.isDistinct = true then
    "SELECT COUNT(*) FROM (SELECT " ++ q.columnList ++ body ++ ") AS t"
  else "SELECT COUNT(*)" ++ body

/-- The texts of both filters with literals, or the first error. -/
def filterLiterals (q : Select) (d : Dialect) : Except DbError (String × String) :=
  (q.filter.literal d).bind fun w => (q.groupFilter.literal d).map fun h => (w, h)

/-- The texts of both filters with placeholders and the parameters of both, or the first error. The
filter on groups counts on from the parameters of the filter. -/
def filtersPrepared (q : Select) (d : Dialect) :
    Except DbError (String × String × Parameters) :=
  let first := q.filter.prepareAfter d .empty
  let second := q.groupFilter.prepareAfter d first.2
  first.1.bind fun w => second.1.map fun h => (w, h, second.2)

/-- Both texts are there if both filters are written. -/
theorem literal_of_filterLiterals {q : Select} {d : Dialect} {t : String × String}
    (h : q.filterLiterals d = .ok t) :
    q.filter.literal d = .ok t.1 ∧ q.groupFilter.literal d = .ok t.2 := by
  unfold filterLiterals at h
  cases hw : q.filter.literal d with
  | error e =>
    rw [hw] at h
    cases h
  | ok w =>
    cases hh : q.groupFilter.literal d with
    | error e =>
      rw [hw, hh] at h
      cases h
    | ok g =>
      rw [hw, hh] at h
      cases h
      exact ⟨rfl, rfl⟩

/-- Both texts are there if both filters are prepared, one after the other. -/
theorem prepareAfter_of_filtersPrepared {q : Select} {d : Dialect}
    {t : String × String × Parameters} (h : q.filtersPrepared d = .ok t) :
    ∃ p, q.filter.prepareAfter d .empty = (.ok t.1, p) ∧
      q.groupFilter.prepareAfter d p = (.ok t.2.1, t.2.2) := by
  unfold filtersPrepared at h
  rcases hw : q.filter.prepareAfter d .empty with ⟨e | w, p⟩
  · simp only [hw] at h
    cases h
  · rcases hh : q.groupFilter.prepareAfter d p with ⟨e | g, p'⟩
    · simp only [hw, hh] at h
      cases h
    · simp only [hw, hh] at h
      cases h
      exact ⟨p, rfl, hh⟩

/-! ## The body -/

/-- A filter behind its keyword, unless it has no entries. -/
def clauseFragment (keyword : String) (g : Filter) (f : Fragment) : Fragment :=
  if g.isEmpty then [] else .text keyword :: f

/-- The body of a query around the fragments of its filters. -/
def bodyFragment (q : Select) (w h : Fragment) : Fragment :=
  .text q.sourceText :: clauseFragment " WHERE " q.filter w ++
    .text q.groupText :: clauseFragment " HAVING " q.groupFilter h

/-- A filter without entries writes nothing. -/
theorem rendering_of_isEmpty {g : Filter} (h : g.isEmpty = true) : g.rendering = .ok [] := by
  rw [Filter.rendering, List.isEmpty_iff.mp h, FilterEntry.entriesRendering]

/-- A clause fails as its filter does. -/
theorem result_clause (keyword : String) (g : Filter) :
    (clause keyword g).result = g.rendering.result.map (clauseFragment keyword g) := by
  unfold clause clauseFragment
  split
  · rename_i he
    rw [rendering_of_isEmpty he]
    rfl
  · cases g.rendering <;> rfl

/-- The body fails as the first of its filters that fails. -/
theorem body_eq (q : Select) :
    q.body = q.filter.rendering.result.bind fun w =>
      q.groupFilter.rendering.result.map fun h => q.bodyFragment w h := by
  unfold body
  rw [Rendering.result_append, Rendering.result_append, Rendering.result_append, result_clause,
    result_clause]
  cases q.filter.rendering.result with
  | error e => rfl
  | ok w =>
    cases q.groupFilter.rendering.result with
    | error e => rfl
    | ok h => simp [Rendering.text, Rendering.result, Except.map, Except.bind, bodyFragment]

/-- A clause with literals. -/
theorem literal_clauseFragment (d : Dialect) (keyword : String) (g : Filter) (f : Fragment) :
    (clauseFragment keyword g f).literal d = if g.isEmpty then "" else keyword ++ f.literal d := by
  unfold clauseFragment
  split <;> rfl

/-- A clause with placeholders. -/
theorem prepared_clauseFragment (d : Dialect) (used : Nat) (keyword : String) (g : Filter)
    (f : Fragment) :
    (clauseFragment keyword g f).prepared d used =
      if g.isEmpty then "" else keyword ++ f.prepared d used := by
  unfold clauseFragment
  split <;> rfl

/-- A clause binds what its filter binds. -/
theorem values_clauseFragment {keyword : String} {g : Filter} {f : Fragment}
    (h : g.rendering.result = .ok f) : (clauseFragment keyword g f).values = f.values := by
  unfold clauseFragment
  split
  · rename_i he
    rw [rendering_of_isEmpty he] at h
    cases h
    rfl
  · rfl

/-- The body with literals. -/
theorem literal_bodyFragment (q : Select) (d : Dialect) (w h : Fragment) :
    (q.bodyFragment w h).literal d = q.bodyText (w.literal d) (h.literal d) := by
  simp only [bodyFragment, List.cons_append, Fragment.literal, Fragment.literal_append,
    Segment.literal, literal_clauseFragment, bodyText, sourceText, groupText, String.append_assoc]

/-- The body with placeholders, which run through both filters. -/
theorem prepared_bodyFragment {q : Select} {w : Fragment} (hw : q.filter.rendering.result = .ok w)
    (d : Dialect) (h : Fragment) :
    (q.bodyFragment w h).prepared d 0 =
      q.bodyText (w.prepared d 0) (h.prepared d w.values.length) := by
  simp only [bodyFragment, List.cons_append, Fragment.prepared, Fragment.prepared_append,
    Segment.prepared, Segment.values, prepared_clauseFragment, values_clauseFragment hw, bodyText,
    sourceText, groupText, String.append_assoc, List.length_nil, Nat.zero_add, Nat.add_zero]

/-- The body binds the values of the filter and then those of the filter on groups. -/
theorem values_bodyFragment {q : Select} {w h : Fragment}
    (hw : q.filter.rendering.result = .ok w) (hh : q.groupFilter.rendering.result = .ok h) :
    (q.bodyFragment w h).values = w.values ++ h.values := by
  simp only [bodyFragment, List.cons_append, Fragment.values_cons, Fragment.values_append,
    Segment.values, values_clauseFragment hw, values_clauseFragment hh, List.nil_append]

/-! ## Both texts -/

/-- The count is taken of a table with groups, a filter on groups or distinct rows. -/
private theorem countsDerived_iff (q : Select) :
    q.countsDerived = true ↔
      q.groups ≠ [] ∨ q.groupFilter.entries ≠ [] ∨ q.isDistinct = true := by
  simp [countsDerived, Filter.isEmpty, or_assoc]

/-- A fragment that is made of those of both filters has the literals of both. -/
theorem map_literal_body (q : Select) (d : Dialect) (build : Fragment → Fragment)
    (around : String → String)
    (hbuild : ∀ b : Fragment, (build b).literal d = around (b.literal d)) :
    (q.body.map build).map (Fragment.literal d) =
      (q.filterLiterals d).map fun t => around (q.bodyText t.1 t.2) := by
  rw [body_eq, filterLiterals, Filter.literal, Filter.literal]
  cases q.filter.rendering.result with
  | error e => rfl
  | ok w =>
    cases q.groupFilter.rendering.result with
    | error e => rfl
    | ok h =>
      refine congrArg Except.ok ?_
      rw [hbuild, literal_bodyFragment]

/-- So it has the placeholders of both, and binds the values of both. -/
theorem map_prepare_body (q : Select) (d : Dialect) (build : Fragment → Fragment)
    (around : String → String)
    (hbuild : ∀ b : Fragment, (build b).prepared d 0 = around (b.prepared d 0))
    (hvalues : ∀ b : Fragment, (build b).values = b.values) :
    (q.body.map build).map (Fragment.prepare d) =
      (q.filtersPrepared d).map fun t => ⟨around (q.bodyText t.1 t.2.1), t.2.2⟩ := by
  rw [body_eq]
  unfold filtersPrepared Filter.prepareAfter Rendering.prepareAfter
  cases hw : q.filter.rendering with
  | error r => rfl
  | ok w =>
    cases hh : q.groupFilter.rendering with
    | error r => rfl
    | ok h =>
      have hw' : q.filter.rendering.result = .ok w := by rw [hw]; rfl
      have hh' : q.groupFilter.rendering.result = .ok h := by rw [hh]; rfl
      refine congrArg Except.ok ?_
      rw [Fragment.prepare, hbuild, hvalues, prepared_bodyFragment hw', values_bodyFragment hw' hh']
      rfl

/-- A query with literals is written around the literals of its filters. -/
theorem literalFor_eq (q : Select) (d : Dialect) :
    Statement.literalFor d q =
      (q.filterLiterals d).map fun t => q.pageText d (q.bodyText t.1 t.2) := by
  refine q.map_literal_body d _ _ fun b => ?_
  simp only [List.cons_append, Fragment.literal, Fragment.literal_append, Segment.literal,
    orderText, pageText, String.append_assoc, String.append_empty]

/-- So is its count. -/
theorem countLiteralFor_eq (q : Select) (d : Dialect) :
    q.countLiteralFor d = (q.filterLiterals d).map fun t => q.countText (q.bodyText t.1 t.2) := by
  refine q.map_literal_body d _ _ fun b => ?_
  simp only [countText, ← countsDerived_iff]
  split <;>
    simp only [List.cons_append, Fragment.literal, Fragment.literal_append, Segment.literal,
      String.append_assoc, String.append_empty]

/-- A query with placeholders is written around those of its filters and binds their values. -/
theorem prepareFor_eq (q : Select) (d : Dialect) :
    Statement.prepareFor d q =
      (q.filtersPrepared d).map fun t => ⟨q.pageText d (q.bodyText t.1 t.2.1), t.2.2⟩ := by
  refine q.map_prepare_body d _ _ (fun b => ?_) fun b => ?_
  · simp only [List.cons_append, Fragment.prepared, Fragment.prepared_append, Segment.prepared,
      Segment.values, orderText, pageText, String.append_assoc, String.append_empty,
      List.length_nil, Nat.add_zero]
  · simp [Segment.values]

/-- So is its count, which binds the same values. -/
theorem countPrepareFor_eq (q : Select) (d : Dialect) :
    q.countPrepareFor d =
      (q.filtersPrepared d).map fun t => ⟨q.countText (q.bodyText t.1 t.2.1), t.2.2⟩ := by
  refine q.map_prepare_body d _ _ (fun b => ?_) fun b => ?_
  · simp only [countText, ← countsDerived_iff]
    split <;>
      simp only [List.cons_append, Fragment.prepared, Fragment.prepared_append, Segment.prepared,
        Segment.values, String.append_assoc, String.append_empty, List.length_nil, Nat.add_zero]
  · split <;> simp [Segment.values]

end Select

/-! ## Order and window -/

/-- Whether a call only orders rows or cuts a window out of them. -/
def SelectCall.isPaging : SelectCall → Bool
  | .orderBy _ | .orderByAsc _ | .orderByDesc _ | .restartOrder _ _ => true
  | .limit _ | .offset _ | .page _ _ => true
  | _ => false

namespace Select

/-- A query without its order and its window. -/
def unpaged (q : Select) : Select := { q with order := [], window := {} }

/-- The count does not look at order and window. -/
private theorem countFragment_unpaged (q : Select) :
    q.unpaged.countFragment = q.countFragment := rfl

/-- Every call either leaves all but order and window alone, or does not look at them. -/
private theorem unpaged_call (q : Select) (c : SelectCall) :
    (q.call c).unpaged = if c.isPaging then q.unpaged else q.unpaged.call c := by
  cases c <;> rfl

/-- Order and window apart, the calls that only set these may be left out. -/
theorem unpaged_calls (q : Select) (cs : List SelectCall) :
    (q.calls cs).unpaged = q.unpaged.calls (cs.filter fun c => !c.isPaging) := by
  induction cs generalizing q with
  | nil => rfl
  | cons c cs ih =>
    have hstep : (q.calls (c :: cs)).unpaged =
        (q.call c).unpaged.calls (cs.filter fun c => !c.isPaging) := ih (q.call c)
    rw [hstep, unpaged_call]
    cases hc : c.isPaging with
    | true => rw [List.filter_cons_of_neg (by simp [hc]), if_pos rfl]
    | false =>
      rw [List.filter_cons_of_pos (by simp [hc]), if_neg Bool.false_ne_true]
      rfl

/-- Calls that only set order or window may be left out without a change to the count. -/
theorem countFragment_calls (q : Select) (cs : List SelectCall) :
    (q.calls (cs.filter fun c => !c.isPaging)).countFragment = (q.calls cs).countFragment := by
  rw [← countFragment_unpaged, unpaged_calls, List.filter_filter]
  simp only [Bool.and_self]
  rw [← unpaged_calls, countFragment_unpaged]

end Select

end SqlAccess
