import SqlAccess.Proofs.Placeholder.Statement

/-!
# Placeholders keep step with parameters

What is prepared reads back as exactly one placeholder for each parameter, numbered from one in the
dialect that numbers them, and the parameters are the values of the outline: first what is assigned,
then the values of the filter depth first, then those of the filter on groups. A filter that is
prepared behind parameters that are there already counts on from them.
-/

namespace SqlAccess

namespace Fragment

/-- Reading a prepared fragment that carries an outline finds one placeholder for each value. -/
theorem Carries.placeholders_prepared {f : Fragment} {texts : List String}
    {bound points : List Value} (hf : f.Carries texts bound points) {d : Dialect}
    (ht : ∀ t ∈ texts, d.mark ∉ t.toList) (used : Nat) :
    d.placeholders (f.prepared d used) =
      (List.range' (used + 1) bound.length).map d.placeholder := by
  rw [Dialect.placeholders, pieces_prepared hf.separated (hf.free d ht), placeholders_pieces,
    hf.values_eq]

end Fragment

/-- A statement that is prepared carries its outline. -/
theorem Form.exists_fragment_of_prepareFor {s : Form} {d : Dialect} {p : Prepared}
    (h : s.prepareFor d = .ok p) :
    ∃ f : Fragment, f.Carries s.fixedTexts s.bindings s.instants ∧ p = f.prepare d := by
  rw [s.prepareFor_eq d] at h
  obtain ⟨f, hf, rfl⟩ := exists_of_map_eq_ok h
  exact ⟨f, s.carries_of_fragment hf, rfl⟩

/-- A filter that is prepared carries its outline, and its values stand behind those that were
there before. -/
theorem Filter.exists_fragment_of_prepareAfter {g : Filter} {d : Dialect} {start after : Parameters}
    {sql : String} (h : g.prepareAfter d start = (.ok sql, after)) :
    ∃ f : Fragment, f.Carries g.fixedTexts g.bindings g.instants ∧
      sql = f.prepared d start.size ∧ after.values = start.values ++ g.bindings := by
  unfold Filter.prepareAfter Rendering.prepareAfter at h
  obtain ⟨hsql, hafter⟩ := Prod.mk.inj h
  obtain ⟨f, hf, rfl⟩ := exists_of_map_eq_ok hsql
  have hr := Rendering.eq_ok_of_result hf
  have hc := Filter.carries_of_rendering hr
  refine ⟨f, hc, rfl, ?_⟩
  rw [← hafter, hr, ← hc.values_eq]
  rfl

/-- Placeholders and parameters keep step. In everything that is sent, whatever its parts, the
numbered placeholders read from left to right are one for each parameter, counted from one; the
unnumbered ones are as many as the parameters; and in both dialects the parameters are the values
of the outline in order. A filter prepared behind other parameters counts on from them and adds its
own values at the end. The fixed texts must not hold the mark of the dialect themselves. -/
theorem placeholders_keep_step :
    (∀ (s : Form) (p : Prepared), s.prepareFor .postgres = .ok p →
      (∀ t ∈ s.fixedTexts, '$' ∉ t.toList) →
      Dialect.placeholders .postgres p.sql =
        (List.range' 1 p.parameters.size).map fun k => "$" ++ toString k) ∧
    (∀ (s : Form) (p : Prepared), s.prepareFor .mysql = .ok p →
      (∀ t ∈ s.fixedTexts, '?' ∉ t.toList) → p.sql.toList.count '?' = p.parameters.size) ∧
    (∀ (s : Form) (d : Dialect) (p : Prepared), s.prepareFor d = .ok p →
      p.parameters.values = s.bindings) ∧
    (∀ (g : Filter) (start after : Parameters) (sql : String),
      g.prepareAfter .postgres start = (.ok sql, after) →
      (∀ t ∈ g.fixedTexts, '$' ∉ t.toList) →
      after.values = start.values ++ g.bindings ∧
        Dialect.placeholders .postgres sql =
          (List.range' (start.size + 1) g.bindings.length).map fun k => "$" ++ toString k) ∧
    (∀ (g : Filter) (start after : Parameters) (sql : String),
      g.prepareAfter .mysql start = (.ok sql, after) →
      (∀ t ∈ g.fixedTexts, '?' ∉ t.toList) →
      after.values = start.values ++ g.bindings ∧ sql.toList.count '?' = g.bindings.length) := by
  refine ⟨?_, ?_, ?_, ?_, ?_⟩
  · intro s p hp ht
    obtain ⟨f, hf, rfl⟩ := Form.exists_fragment_of_prepareFor hp
    have hn := hf.placeholders_prepared (d := .postgres) ht 0
    rw [← hf.values_eq] at hn
    exact hn
  · intro s p hp ht
    obtain ⟨f, hf, rfl⟩ := Form.exists_fragment_of_prepareFor hp
    have hn := hf.placeholders_prepared (d := .mysql) ht 0
    rw [← Dialect.length_placeholders_mysql, Fragment.prepare, hn, ← hf.values_eq, List.length_map,
      List.length_range']
    rfl
  · intro s d p hp
    obtain ⟨f, hf, rfl⟩ := Form.exists_fragment_of_prepareFor hp
    exact hf.values_eq
  · intro g start after sql hp ht
    obtain ⟨f, hf, rfl, hafter⟩ := Filter.exists_fragment_of_prepareAfter hp
    exact ⟨hafter, hf.placeholders_prepared (d := .postgres) ht start.size⟩
  · intro g start after sql hp ht
    obtain ⟨f, hf, rfl, hafter⟩ := Filter.exists_fragment_of_prepareAfter hp
    refine ⟨hafter, ?_⟩
    rw [← Dialect.length_placeholders_mysql, hf.placeholders_prepared (d := .mysql) ht,
      List.length_map, List.length_range']

/-- A filter with a list, a nested filter with a textual range, and a raw text. -/
def nestedFilter : Filter :=
  ((Filter.empty.and "kind" .isIn (.list [.text "a$9", .text "b"])).addNested .or
    ((Filter.empty.and " day " .between (.text "1, 2")).or "name" .like (.text "x?"))).addRaw .and
    "1 = 1"

/-- An update that assigns a value, an expression and an increment in the rows of that filter. -/
def nestedUpdate : Form :=
  .update
    { table := "users"
      assignments := ⟨[("name", .value (.text "O'Neil")), ("seen", .expression "NOW()"),
        ("hits", .increment (.bool true))]⟩
      filter := nestedFilter }

set_option maxRecDepth 8000 in
/-- The update binds seven values under both dialects although two of them look like placeholders,
and its filter counts on from a parameter that is there before. -/
theorem nestedUpdate_keeps_step :
    ∃ (p q : Prepared) (after : Parameters) (sql : String),
      nestedUpdate.prepareFor .postgres = .ok p ∧ nestedUpdate.prepareFor .mysql = .ok q ∧
      nestedFilter.prepareAfter .postgres ⟨[.null]⟩ = (.ok sql, after) ∧
      (∀ t ∈ nestedUpdate.fixedTexts, '$' ∉ t.toList) ∧
      (∀ t ∈ nestedUpdate.fixedTexts, '?' ∉ t.toList) ∧
      Dialect.placeholders .postgres p.sql = ["$1", "$2", "$3", "$4", "$5", "$6", "$7"] ∧
      q.sql.toList.count '?' = 7 ∧
      Dialect.placeholders .postgres sql = ["$2", "$3", "$4", "$5", "$6"] := by
  have hp : nestedUpdate.prepareFor .postgres = .ok
      ⟨"UPDATE users SET name = $1, seen = NOW(), hits = hits + $2 WHERE kind IN ($3,$4) OR " ++
        "(day BETWEEN $5 AND $6 OR name LIKE $7) AND 1 = 1", ⟨nestedUpdate.bindings⟩⟩ := rfl
  have hq : nestedUpdate.prepareFor .mysql = .ok
      ⟨"UPDATE users SET name = ?, seen = NOW(), hits = hits + ? WHERE kind IN (?,?) OR " ++
        "(day BETWEEN ? AND ? OR name LIKE ?) AND 1 = 1", ⟨nestedUpdate.bindings⟩⟩ := rfl
  have hg : nestedFilter.prepareAfter .postgres ⟨[.null]⟩ =
      (.ok "kind IN ($2,$3) OR (day BETWEEN $4 AND $5 OR name LIKE $6) AND 1 = 1",
        ⟨.null :: nestedFilter.bindings⟩) := rfl
  have hd : ∀ t ∈ nestedUpdate.fixedTexts, '$' ∉ t.toList := by decide
  have hm : ∀ t ∈ nestedUpdate.fixedTexts, '?' ∉ t.toList := by decide
  have hf : ∀ t ∈ nestedFilter.fixedTexts, '$' ∉ t.toList := by decide
  obtain ⟨hpostgres, hmysql, -, hfilter, -⟩ := placeholders_keep_step
  exact ⟨_, _, _, _, hp, hq, hg, hd, hm, hpostgres _ _ hp hd, hmysql _ _ hq hm,
    (hfilter _ _ _ _ hg hf).2⟩

end SqlAccess
