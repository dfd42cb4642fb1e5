import SqlAccess.Proofs.Placeholder.Contents
import SqlAccess.Proofs.Statement.Acceptance

/-!
# The first condition that fails

A filter is written condition by condition, depth first and from left to right, and the first one
that cannot be written ends it. `Report` keeps of a rendering what it leaves behind: the values that
were bound and the error that ended it. Reports follow one another like renderings do, so the report
of a filter is that of its conditions in order, whatever groups they stand in.
-/

namespace SqlAccess

/-- The values that were bound, and the error that ended everything, if one did. -/
structure Report where
  bound : List Value
  cause : Option DbError

namespace Report

def nothing : Report := ⟨[], none⟩

/-- One report after another; behind an error there is nothing to report. -/
def append (a b : Report) : Report :=
  match a.cause with
  | none => ⟨a.bound ++ b.bound, b.cause⟩
  | some _ => a

instance : Append Report := ⟨append⟩

/-- Without an error the report goes on with the next one. -/
@[simp] theorem mk_none_append (vs : List Value) (b : Report) :
    (⟨vs, none⟩ : Report) ++ b = ⟨vs ++ b.bound, b.cause⟩ := rfl

/-- An error ends the report. -/
@[simp] theorem mk_some_append (vs : List Value) (e : DbError) (b : Report) :
    (⟨vs, some e⟩ : Report) ++ b = ⟨vs, some e⟩ := rfl

/-- An empty report in front adds nothing. -/
@[simp] theorem nothing_append (a : Report) : nothing ++ a = a := rfl

/-- An empty report behind adds nothing. -/
@[simp] theorem append_nothing (a : Report) : a ++ nothing = a := by
  obtain ⟨vs, _ | e⟩ := a
  · simp [nothing]
  · rfl

/-- It does not matter how reports that follow one another are grouped. -/
theorem append_assoc (a b c : Report) : a ++ b ++ c = a ++ (b ++ c) := by
  obtain ⟨vs, _ | e⟩ := a
  · obtain ⟨ws, _ | e⟩ := b
    · simp
    · rfl
  · rfl

end Report

/-- What a rendering leaves behind. -/
def Rendering.report : Rendering → Report
  | .ok f => ⟨f.values, none⟩
  | .error r => ⟨r.written.values, some r.cause⟩

/-- Renderings one after another report one after another. -/
theorem Rendering.report_append (r s : Rendering) : (r ++ s).report = r.report ++ s.report := by
  cases r with
  | error x => rfl
  | ok f =>
    cases s with
    | error y => exact congrArg (Report.mk · (some y.cause)) (Fragment.values_append f y.written)
    | ok g => exact congrArg (Report.mk · none) (Fragment.values_append f g)

/-- Values that are bound without an error stand behind the parameters that were there. -/
theorem Rendering.prepareAfter_of_bound {r : Rendering} {vs : List Value}
    (h : r.report = ⟨vs, none⟩) (d : Dialect) (p : Parameters) :
    ∃ sql, r.prepareAfter d p = (.ok sql, ⟨p.values ++ vs⟩) := by
  cases r with
  | error x => cases h
  | ok f =>
    cases h
    exact ⟨_, rfl⟩

/-- So do those that were bound before an error. -/
theorem Rendering.prepareAfter_of_cause {r : Rendering} {vs : List Value} {e : DbError}
    (h : r.report = ⟨vs, some e⟩) (d : Dialect) (p : Parameters) :
    r.prepareAfter d p = (.error e, ⟨p.values ++ vs⟩) := by
  cases r with
  | error x =>
    cases h
    rfl
  | ok f => cases h

/-- Fixed text leaves nothing behind. -/
@[simp] theorem Rendering.report_text (s : String) :
    (Rendering.text s).report = Report.nothing := rfl

namespace Condition

variable {c : Condition}

/-- A condition that is written reports its values. -/
theorem report_of_ok {f : Fragment} (h : c.render = .ok f) :
    c.rendering.report = ⟨c.bindings, none⟩ := by
  rw [rendering, h, ← (carries_of_render h).values_eq]
  rfl

/-- A condition that is written adds its values to the parameters. -/
theorem prepareAfter_of_ok {f : Fragment} (h : c.render = .ok f) (d : Dialect) (p : Parameters) :
    ∃ sql, c.prepareAfter d p = (.ok sql, ⟨p.values ++ c.bindings⟩) :=
  Rendering.prepareAfter_of_bound (report_of_ok h) d p

/-- A condition that renders has a prepared text. -/
theorem exists_sql_of_ok (h : ∃ f, c.render = .ok f) (d : Dialect) (p : Parameters) :
    ∃ sql, (c.prepareAfter d p).1 = .ok sql := by
  obtain ⟨f, hf⟩ := h
  obtain ⟨sql, hsql⟩ := prepareAfter_of_ok hf d p
  exact ⟨sql, congrArg Prod.fst hsql⟩

/-- A condition that fails reports its fault and no value. -/
theorem report_of_error {fault : ConditionFault} (h : c.render = .error fault) :
    c.rendering.report = ⟨[], some (.invalidCondition c.trimmedColumn fault.reason)⟩ := by
  rw [rendering, h]
  rfl

end Condition

/-- The reports of conditions one after another. -/
def Report.ofConditions (cs : List Condition) : Report :=
  cs.foldr (fun c report => c.rendering.report ++ report) nothing

namespace Report

/-- The report of conditions starts with that of the first one. -/
theorem ofConditions_cons (c : Condition) (cs : List Condition) :
    ofConditions (c :: cs) = c.rendering.report ++ ofConditions cs := rfl

/-- Conditions in two parts report one part after the other. -/
theorem ofConditions_append (cs ds : List Condition) :
    ofConditions (cs ++ ds) = ofConditions cs ++ ofConditions ds := by
  induction cs with
  | nil => rfl
  | cons c cs ih => rw [List.cons_append, ofConditions_cons, ofConditions_cons, ih, append_assoc]

/-- Conditions that are all written report the values of each. -/
theorem ofConditions_of_ok {cs : List Condition} (h : ∀ c ∈ cs, ∃ f, c.render = .ok f) :
    ofConditions cs = ⟨cs.flatMap Condition.bindings, none⟩ := by
  induction cs with
  | nil => rfl
  | cons c cs ih =>
    obtain ⟨⟨f, hf⟩, hcs⟩ := List.forall_mem_cons.mp h
    rw [ofConditions_cons, Condition.report_of_ok hf, ih hcs, mk_none_append, List.flatMap_cons]

/-- Conditions of which one fails report the values of those before the first such one, and its
fault. -/
theorem ofConditions_of_first {before after : List Condition} {c : Condition}
    {fault : ConditionFault} (hbefore : ∀ b ∈ before, ∃ f, b.render = .ok f)
    (hc : c.render = .error fault) :
    ofConditions (before ++ c :: after) = ⟨before.flatMap Condition.bindings,
      some (.invalidCondition c.trimmedColumn fault.reason)⟩ := by
  rw [ofConditions_append, ofConditions_of_ok hbefore, ofConditions_cons,
    Condition.report_of_error hc, mk_some_append, mk_none_append, List.append_nil]

end Report

/-- All conditions are written, or there is a first one that fails. -/
theorem Condition.all_ok_or_exists_first (cs : List Condition) :
    (∀ c ∈ cs, ∃ f, c.render = .ok f) ∨
      ∃ before c after fault, cs = before ++ c :: after ∧
        (∀ b ∈ before, ∃ f, b.render = .ok f) ∧ c.render = .error fault := by
  induction cs with
  | nil => exact .inl fun c hc => absurd hc List.not_mem_nil
  | cons c cs ih =>
    cases hc : c.render with
    | error fault => exact .inr ⟨[], c, cs, fault, rfl, fun b hb => absurd hb List.not_mem_nil, hc⟩
    | ok f =>
      rcases ih with ih | ⟨before, b, after, fault, rfl, hbefore, hb⟩
      · exact .inl (List.forall_mem_cons.mpr ⟨⟨f, hc⟩, ih⟩)
      · exact .inr ⟨c :: before, b, after, fault, rfl,
          List.forall_mem_cons.mpr ⟨⟨f, hc⟩, hbefore⟩, hb⟩

namespace FilterEntry

/-- The conditions of leaves, in order. -/
def conditionsOf (ls : List FilterLeaf) : List Condition := ls.filterMap FilterLeaf.condition?

/-- Leaves in two parts report one part after the other. -/
private theorem report_conditionsOf_append (ls ms : List FilterLeaf) :
    Report.ofConditions (conditionsOf (ls ++ ms)) =
      Report.ofConditions (conditionsOf ls) ++ Report.ofConditions (conditionsOf ms) := by
  rw [conditionsOf, List.filterMap_append]
  exact Report.ofConditions_append _ _

mutual

/-- An entry reports its conditions; the parentheses of a group are fixed texts and add nothing. -/
theorem report_rendering : (e : FilterEntry) →
    e.rendering.report = Report.ofConditions (conditionsOf e.leaves)
  | .condition c => (Report.append_nothing c.rendering.report).symm
  | .nested connective entries => by
    rw [rendering, Rendering.report_append, Rendering.report_append, Rendering.report_text,
      Rendering.report_text, Report.nothing_append, Report.append_nothing, leaves,
      report_entriesRendering entries]
  | .raw connective sql => rfl

/-- Entries report their conditions in order. -/
theorem report_entriesRendering : (es : List FilterEntry) →
    (entriesRendering es).report = Report.ofConditions (conditionsOf (entriesLeaves es))
  | [] => rfl
  | e :: es => by
    rw [entriesRendering, Rendering.report_append, report_rendering e,
      report_followersRendering es, entriesLeaves, report_conditionsOf_append]

/-- So do the entries after the first: the connectives in front of them report nothing. -/
theorem report_followersRendering : (es : List FilterEntry) →
    (followersRendering es).report = Report.ofConditions (conditionsOf (entriesLeaves es))
  | [] => rfl
  | e :: es => by
    rw [followersRendering, Rendering.report_append, Rendering.report_append,
      Rendering.report_text, Report.nothing_append, report_rendering e,
      report_followersRendering es, entriesLeaves, report_conditionsOf_append]

end

end FilterEntry

/-- A filter reports its conditions, whatever groups they stand in. -/
theorem Filter.report_eq (f : Filter) : f.rendering.report = Report.ofConditions f.conditions :=
  FilterEntry.report_entriesRendering f.entries

/-- Either every condition of a filter can be written, and so can the filter, or there is a first
one that cannot, depth first and from left to right: then its error is that of the filter, and the
values of the conditions before it are all that was added to the parameters. The values of a
condition are those that it adds when it is written on its own. -/
theorem first_fault_ends_filter (f : Filter) (d : Dialect) (p : Parameters) :
    (((∀ c ∈ f.conditions, ∃ sql, (c.prepareAfter d p).1 = .ok sql) ∧
        ∃ sql, f.prepareAfter d p =
          (.ok sql, ⟨p.values ++ f.conditions.flatMap Condition.bindings⟩)) ∨
      ∃ before c after e, f.conditions = before ++ c :: after ∧
        (∀ b ∈ before, ∃ sql, (b.prepareAfter d p).1 = .ok sql) ∧
        (c.prepareAfter d p).1 = .error e ∧
        f.prepareAfter d p = (.error e, ⟨p.values ++ before.flatMap Condition.bindings⟩)) ∧
    ∀ (c : Condition) (q : Parameters) (sql : String), (c.prepareAfter d q).1 = .ok sql →
      (c.prepareAfter d q).2 = ⟨q.values ++ c.bindings⟩ := by
  constructor
  · rcases Condition.all_ok_or_exists_first f.conditions with
      hall | ⟨before, c, after, fault, hsplit, hbefore, hfault⟩
    · have hreport : f.rendering.report = ⟨f.conditions.flatMap Condition.bindings, none⟩ := by
        rw [f.report_eq, Report.ofConditions_of_ok hall]
      refine .inl ⟨fun c hc => ?_, Rendering.prepareAfter_of_bound hreport d p⟩
      exact Condition.exists_sql_of_ok (hall c hc) d p
    · have hreport : f.rendering.report = ⟨before.flatMap Condition.bindings,
          some (.invalidCondition c.trimmedColumn fault.reason)⟩ := by
        rw [f.report_eq, hsplit, Report.ofConditions_of_first hbefore hfault]
      have hc := congrArg Prod.fst (Condition.prepareAfter_of_error hfault d p)
      have hf := Rendering.prepareAfter_of_cause hreport d p
      refine .inr ⟨before, c, after, _, hsplit, fun b hb => ?_, hc, hf⟩
      exact Condition.exists_sql_of_ok (hbefore b hb) d p
  · intro c q sql hsql
    cases hc : c.render with
    | error fault =>
      rw [Condition.prepareAfter_of_error hc d q] at hsql
      cases hsql
    | ok g =>
      obtain ⟨text, htext⟩ := Condition.prepareAfter_of_ok hc d q
      rw [htext]

/-- A pattern with a number ends the filter in a nested group. The list and the range before it are
bound, and the condition behind the group is not. -/
example :
    (((Filter.empty.and "kind" .isIn (.list [.text "a", .text "b"])).addNested .or
      ((Filter.empty.and "day" .between (.text "1, 2")).or "size" .like (.int 5))).and "last" .eq
        (.int 1)).prepareAfter .postgres ⟨[.null]⟩ =
      (.error (.invalidCondition "size" "operator 'lk' does not accept a int value"),
        ⟨[.null, .text "a", .text "b", .text "1", .text "2"]⟩) := rfl

end SqlAccess
