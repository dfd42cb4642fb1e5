import SqlAccess.Proofs.Manager.Refusal
import SqlAccess.Proofs.Placeholder.Fragment
import SqlAccess.Proofs.Statement.Edits

/-!
# No change without a filter

An update or a delete is written only if an entry of its filter stands, whatever calls were made on
it, and what is written is the filter of exactly those entries. Otherwise it is refused in every
dialect, with literals and prepared alike, and so it is never sent.
-/

namespace SqlAccess

/-! ## Filters that are put together -/

/-- An entry in which no filter without entries is nested, at any depth. -/
inductive FilterEntry.Filled : FilterEntry → Prop
  | condition (c : Condition) : Filled (.condition c)
  | raw (connective : Connective) (sql : String) : Filled (.raw connective sql)
  | nested (connective : Connective) {entries : List FilterEntry} (hne : entries ≠ [])
    (h : ∀ e ∈ entries, Filled e) : Filled (.nested connective entries)

namespace Filter

/-- The filters that can be put together. -/
inductive Built : Filter → Prop
  | empty : Built .empty
  | add {f : Filter} (h : Built f) (c : Condition) : Built (f.add c)
  | addRaw {f : Filter} (h : Built f) (connective : Connective) (sql : String) :
    Built (f.addRaw connective sql)
  | addNested {f g : Filter} (h : Built f) (connective : Connective) (hg : Built g) :
    Built (f.addNested connective g)

/-- A filter is filled that is put together. -/
theorem Built.filled {f : Filter} (h : f.Built) : ∀ e ∈ f.entries, e.Filled := by
  induction h with
  | empty => exact fun _ he => absurd he List.not_mem_nil
  | add _ c ih => exact List.forall_mem_append.mpr ⟨ih, by simpa using .condition c⟩
  | addRaw _ connective sql ih =>
    exact List.forall_mem_append.mpr ⟨ih, by simpa using .raw connective sql⟩
  | @addNested f g _ connective _ ih ihg =>
    rw [Filter.addNested]
    split
    · exact ih
    · rename_i hg
      refine List.forall_mem_append.mpr ⟨ih, ?_⟩
      simpa using .nested connective (fun h => hg (List.isEmpty_iff.mpr h)) ihg

/-- A filter that takes in a group is empty exactly if both are. -/
theorem isEmpty_addNested (f : Filter) (connective : Connective) (g : Filter) :
    (f.addNested connective g).isEmpty = (f.isEmpty && g.isEmpty) := by
  unfold addNested
  split
  · rename_i hg
    rw [hg, Bool.and_true]
  · rename_i hg
    rw [Bool.eq_false_iff.mpr hg, Bool.and_false]
    simp [isEmpty]

/-- A filter stays without entries as long as only such filters are nested. -/
theorem isEmpty_foldl_addNested (f : Filter) (gs : List (Connective × Filter)) :
    (gs.foldl (fun f g => f.addNested g.1 g.2) f).isEmpty =
      (f.isEmpty && gs.all fun g => g.2.isEmpty) := by
  induction gs generalizing f with
  | nil => simp
  | cons g gs ih =>
    rw [List.foldl_cons, ih, isEmpty_addNested, List.all_cons, Bool.and_assoc]

end Filter

/-- What a call nests is a filter that was put together. -/
def FilterCall.NestsBuilt (c : FilterCall) : Prop :=
  ∀ connective f, c = .nested connective f → f.Built

/-- The entry of a call that nests a filter is filled if that filter was put together. -/
theorem FilterCall.filled_of_nestsBuilt {c : FilterCall} (h : c.NestsBuilt) :
    ∀ e ∈ c.entry?, e.Filled := by
  intro e he
  cases c with
  | nested connective f =>
    rw [Option.mem_def, FilterCall.entry?] at he
    split at he
    · cases he
    · rename_i hf
      cases he
      exact .nested connective (fun h => hf (List.isEmpty_iff.mpr h)) (h connective f rfl).filled
  | raw sql => cases he; exact .raw .and sql
  | _ => cases he; exact .condition _

/-! ## Refusals of a filter -/

/-- A rendering that is refused for a condition, if at all. -/
def Rendering.FailsOnCondition (r : Rendering) : Prop :=
  ∀ refusal, r = .error refusal →
    ∃ column reason, refusal.cause = .invalidCondition column reason

/-- Two parts that fail on conditions only do so together. -/
theorem Rendering.FailsOnCondition.append {r r' : Rendering} (h : r.FailsOnCondition)
    (h' : r'.FailsOnCondition) : (r ++ r').FailsOnCondition := by
  intro refusal he
  cases r with
  | error x => exact h refusal he
  | ok f =>
    cases r' with
    | error x =>
      cases he
      exact h' x rfl
    | ok g => cases he

/-- A text that is fixed does not fail. -/
theorem Rendering.failsOnCondition_ok (f : Fragment) :
    Rendering.FailsOnCondition (.ok f) := fun _ h => nomatch h

namespace FilterEntry

mutual

/-- An entry is refused for a condition in it. -/
theorem failsOnCondition_rendering : (e : FilterEntry) → e.rendering.FailsOnCondition
  | .condition c => by
    intro refusal h
    rw [rendering, Condition.rendering] at h
    split at h
    · cases h
    · cases h
      exact ⟨_, _, rfl⟩
  | .nested _ entries => by
    rw [rendering]
    exact ((Rendering.failsOnCondition_ok _).append (failsOnCondition_entries entries)).append
      (Rendering.failsOnCondition_ok _)
  | .raw _ sql => Rendering.failsOnCondition_ok [.text sql]

/-- Entries are refused for a condition in one of them. -/
theorem failsOnCondition_entries : (es : List FilterEntry) → (entriesRendering es).FailsOnCondition
  | [] => Rendering.failsOnCondition_ok []
  | e :: es => by
    rw [entriesRendering]
    exact (failsOnCondition_rendering e).append (failsOnCondition_followers es)

/-- Entries after the first are refused for a condition in one of them. -/
theorem failsOnCondition_followers :
    (es : List FilterEntry) → (followersRendering es).FailsOnCondition
  | [] => Rendering.failsOnCondition_ok []
  | e :: es => by
    rw [followersRendering]
    exact ((Rendering.failsOnCondition_ok _).append (failsOnCondition_rendering e)).append
      (failsOnCondition_followers es)

end

end FilterEntry

/-- A statement that is refused for its filter has an invalid condition. -/
theorem Filter.invalidCondition_of_error {f : Filter} {build : Fragment → Fragment} {e : DbError}
    (h : f.rendering.result.map build = .error e) :
    ∃ column reason, e = .invalidCondition column reason := by
  rcases hr : f.rendering with refusal | g
  · rw [hr] at h
    cases h
    exact FilterEntry.failsOnCondition_entries f.entries refusal hr
  · rw [hr] at h
    cases h

/-! ## Statements with a filter -/

namespace Statement

variable {α : Type} [Statement α] {q : α} {e : DbError}

/-- A statement is refused with literals exactly when its fragment is. -/
theorem literalFor_eq_error_iff {d : Dialect} :
    literalFor d q = .error e ↔ fragment q = .error e := by
  rw [literalFor]
  rcases fragment q with e' | f <;> simp [Except.map]

/-- A statement is refused as a prepared one exactly when its fragment is. -/
theorem prepareFor_eq_error_iff {d : Dialect} :
    prepareFor d q = .error e ↔ fragment q = .error e := by
  rw [prepareFor]
  rcases fragment q with e' | f <;> simp [Except.map]

/-- A statement of a text and a filter is written as the text and the filter. -/
theorem literalFor_of_filter {head : Fragment} {f : Filter}
    (h : fragment q = f.rendering.result.map (head ++ ·)) (d : Dialect) :
    literalFor d q = (f.literal d).map (head.literal d ++ ·) := by
  rw [literalFor, h, Filter.literal]
  rcases f.rendering.result with e | w
  · rfl
  · exact congrArg Except.ok (Fragment.literal_append d head w)

/-- A statement of a head and a filter is prepared as the head, and the filter after the parameters
of the head. -/
theorem prepareFor_of_filter {head : Fragment} {f : Filter}
    (h : fragment q = f.rendering.result.map (head ++ ·)) (d : Dialect) :
    prepareFor d q = (f.prepareAfter d ⟨head.values⟩).1.map fun w =>
      ⟨head.prepared d 0 ++ w, (f.prepareAfter d ⟨head.values⟩).2⟩ := by
  rw [prepareFor, h, Filter.prepareAfter, Rendering.prepareAfter]
  rcases f.rendering with r | w
  · rfl
  · simp [Rendering.result, Rendering.written, Except.map, Fragment.prepare, Parameters.size,
      Fragment.prepared_append]

end Statement

open FilterStep (Unfiltered standing)

/-- A statement that needs a filter, after some steps of that filter: it is refused exactly when no
step since the last reset has added to the filter, and otherwise all that is written behind its head
is the filter of the entries that stand. -/
structure NeedsFilter {α : Type} [Mutation α] (q : α) (complaint : String) (head : Fragment)
    (steps : List FilterStep) : Prop where
  refused : Unfiltered steps → ∀ d,
    Statement.literalFor d q = .error (.unsafeStatement complaint) ∧
    Statement.prepareFor d q = .error (.unsafeStatement complaint)
  neverSent : Unfiltered steps → NeverSent q (.unsafeStatement complaint)
  literal : ¬Unfiltered steps → ∀ d,
    Statement.literalFor d q = (Filter.literal d ⟨standing steps⟩).map (head.literal d ++ ·)
  prepared : ¬Unfiltered steps → ∀ d,
    Statement.prepareFor d q =
      (Filter.prepareAfter d ⟨head.values⟩ ⟨standing steps⟩).1.map fun w =>
        ⟨head.prepared d 0 ++ w, (Filter.prepareAfter d ⟨head.values⟩ ⟨standing steps⟩).2⟩
  unsafe_iff : ∀ d,
    ((∃ m, Statement.literalFor d q = .error (.unsafeStatement m)) ↔ Unfiltered steps) ∧
    ((∃ m, Statement.prepareFor d q = .error (.unsafeStatement m)) ↔ Unfiltered steps)
  /-- What is refused although there is a filter has an invalid condition. -/
  invalid : ¬Unfiltered steps → ∀ d e,
    Statement.literalFor d q = .error e ∨ Statement.prepareFor d q = .error e →
      ∃ column reason, e = .invalidCondition column reason
  /-- No filter without entries is nested in what is written, at any depth. -/
  filled : (∀ c, .call c ∈ steps → c.NestsBuilt) → ∀ e ∈ standing steps, e.Filled

/-- A statement needs a filter whose fragment is refused without one and else ends with it. -/
theorem needsFilter_of_fragment {α : Type} [Mutation α] {q : α} {complaint : String}
    {head : Fragment} {steps : List FilterStep}
    (hrefused : Unfiltered steps → Statement.fragment q = .error (.unsafeStatement complaint))
    (hwritten : ¬Unfiltered steps →
      Statement.fragment q = (Filter.rendering ⟨standing steps⟩).result.map (head ++ ·)) :
    NeedsFilter q complaint head steps := by
  have hinvalid : ¬Unfiltered steps → ∀ e, Statement.fragment q = .error e →
      ∃ column reason, e = .invalidCondition column reason := by
    intro h e he
    rw [hwritten h] at he
    exact Filter.invalidCondition_of_error he
  have hrefusal : (∃ m, Statement.fragment q = .error (.unsafeStatement m)) ↔ Unfiltered steps := by
    constructor
    · rintro ⟨m, hm⟩
      by_contra h
      obtain ⟨column, reason, he⟩ := hinvalid h _ hm
      cases he
    · intro h
      exact ⟨complaint, hrefused h⟩
  constructor
  case refused =>
    intro h d
    rw [Statement.literalFor_eq_error_iff, Statement.prepareFor_eq_error_iff]
    exact ⟨hrefused h, hrefused h⟩
  case neverSent =>
    intro h
    exact neverSent_of_refused fun _ => Statement.prepareFor_eq_error_iff.mpr (hrefused h)
  case literal => exact fun h => Statement.literalFor_of_filter (hwritten h)
  case prepared => exact fun h => Statement.prepareFor_of_filter (hwritten h)
  case unsafe_iff =>
    intro d
    simp only [Statement.literalFor_eq_error_iff, Statement.prepareFor_eq_error_iff]
    exact ⟨hrefusal, hrefusal⟩
  case invalid =>
    intro h d e he
    rw [Statement.literalFor_eq_error_iff, Statement.prepareFor_eq_error_iff, or_self] at he
    exact hinvalid h e he
  case filled =>
    intro h e he
    obtain ⟨c, hc, hentry⟩ := FilterStep.exists_of_mem_standing he
    exact FilterCall.filled_of_nestsBuilt (h c hc) e hentry

/-! ## Deletes -/

/-- A delete needs a filter. -/
theorem Delete.needsFilter (table : String) (cs : List DeleteCall) :
    NeedsFilter ((ofTable table).calls cs) ("DELETE FROM " ++ table ++ " without WHERE")
      [.text ("DELETE FROM " ++ table ++ " WHERE ")] (cs.map DeleteCall.step) := by
  have hempty : ((ofTable table).calls cs).filter.isEmpty = true ↔
      Unfiltered (cs.map DeleteCall.step) := by
    rw [filter_calls, Filter.isEmpty, List.isEmpty_iff, FilterStep.standing_eq_nil_iff]
  apply needsFilter_of_fragment
  · intro h
    show fragment _ = _
    rw [fragment, if_pos (hempty.mpr h), table_calls]
    rfl
  · intro h
    show fragment _ = _
    rw [fragment, if_neg (mt hempty.mp h), filter_calls, table_calls]
    rfl

/-! ## Updates -/

namespace Update

variable {table : String} {cs : List UpdateCall}

/-- An update has no assignments exactly when none stands. -/
private theorem isEmpty_assignments :
    ((ofTable table).calls cs).assignments.isEmpty = true ↔ UpdateCall.assigned cs = [] := by
  rw [assignments_calls, Assignments.isEmpty_ofList, List.isEmpty_iff]

/-- Without an assignment that stands an update is refused. -/
theorem fragment_of_assigned_eq_nil (table : String) (h : UpdateCall.assigned cs = []) :
    Statement.fragment ((ofTable table).calls cs) = .error (noAssignments table) := by
  show fragment _ = _
  rw [fragment, if_pos (isEmpty_assignments.mpr h), table_calls]
  rfl

/-- An update that assigns something needs a filter. -/
theorem needsFilter (h : UpdateCall.assigned cs ≠ []) :
    NeedsFilter ((ofTable table).calls cs) ("UPDATE " ++ table ++ " without WHERE")
      (.text ("UPDATE " ++ table ++ " SET ") ::
        (((ofTable table).calls cs).assignmentList ++ [.text " WHERE "]))
      (cs.map UpdateCall.step) := by
  have hassigned : ¬((ofTable table).calls cs).assignments.isEmpty = true :=
    mt isEmpty_assignments.mp h
  have hempty : ((ofTable table).calls cs).filter.isEmpty = true ↔
      Unfiltered (cs.map UpdateCall.step) := by
    rw [filter_calls, Filter.isEmpty, List.isEmpty_iff, FilterStep.standing_eq_nil_iff]
  apply needsFilter_of_fragment
  · intro hu
    show fragment _ = _
    rw [fragment, if_neg hassigned, if_pos (hempty.mpr hu), table_calls]
    rfl
  · intro hu
    show fragment _ = _
    rw [fragment, if_neg hassigned, if_neg (mt hempty.mp hu), filter_calls, table_calls]
    simp only [List.cons_append, List.append_assoc]
    rfl

end Update

/-- Whatever calls are made on a delete or an update, it is written only with a filter, which is
that of exactly the entries that stand, and without one it is refused and never sent. Before that an
update is refused if no assignment stands. A filter into which only filters without entries were
nested has no entries either. -/
theorem changes_need_a_filter :
    (∀ table cs, NeedsFilter ((Delete.ofTable table).calls cs)
      ("DELETE FROM " ++ table ++ " without WHERE")
      [.text ("DELETE FROM " ++ table ++ " WHERE ")] (cs.map DeleteCall.step)) ∧
    (∀ table cs,
      ((Update.ofTable table).calls cs).assignments = .ofList (UpdateCall.assigned cs) ∧
      (UpdateCall.assigned cs = [] →
        NeverSent ((Update.ofTable table).calls cs)
          (.validation ("UPDATE " ++ table ++ " has no SET assignments")) ∧
        ∀ d, Statement.literalFor d ((Update.ofTable table).calls cs) =
            .error (.validation ("UPDATE " ++ table ++ " has no SET assignments")) ∧
          Statement.prepareFor d ((Update.ofTable table).calls cs) =
            .error (.validation ("UPDATE " ++ table ++ " has no SET assignments"))) ∧
      (UpdateCall.assigned cs ≠ [] →
        NeedsFilter ((Update.ofTable table).calls cs) ("UPDATE " ++ table ++ " without WHERE")
          (.text ("UPDATE " ++ table ++ " SET ") ::
            (((Update.ofTable table).calls cs).assignmentList ++ [.text " WHERE "]))
          (cs.map UpdateCall.step))) ∧
    ∀ gs : List (Connective × Filter),
      (gs.foldl (fun f g => f.addNested g.1 g.2) Filter.empty).isEmpty =
        gs.all fun g => g.2.isEmpty := by
  refine ⟨Delete.needsFilter, fun table cs => ⟨Update.assignments_calls table cs, fun h => ?_,
    Update.needsFilter⟩, Filter.isEmpty_foldl_addNested .empty⟩
  have hfragment := Update.fragment_of_assigned_eq_nil table h
  exact ⟨neverSent_of_refused fun _ => Statement.prepareFor_eq_error_iff.mpr hfragment,
    fun _ => ⟨Statement.literalFor_eq_error_iff.mpr hfragment,
      Statement.prepareFor_eq_error_iff.mpr hfragment⟩⟩

/-- A delete whose only condition was reset is refused, since nesting an empty filter adds nothing;
a restart leaves its own condition and what comes after it. -/
theorem userChanges_need_a_filter :
    Statement.literalFor .mysql ((Delete.ofTable "users").calls
        [.filter (.eq "id" (.int 1)), .reset, .filter (.nested .and .empty)]) =
      .error (.unsafeStatement "DELETE FROM users without WHERE") ∧
    Statement.literalFor .mysql ((Delete.ofTable "users").calls
        [.filter (.raw "old"), .filter (.restart "id" .eq (.int 1)),
          .filter (.nested .or (.addRaw .empty .and "spare"))]) =
      .ok "DELETE FROM users WHERE id = 1 OR (spare)" ∧
    Statement.literalFor .mysql ((Update.ofTable "users").calls
        [.set "age" (.int 2), .reset, .filter (.eq "id" (.int 1))]) =
      .error (.validation "UPDATE users has no SET assignments") ∧
    (Statement.prepareFor .postgres ((Update.ofTable "users").calls
        [.increment "age" (.int 2), .filter (.eq "id" (.int 1))])).map Prepared.sql =
      .ok "UPDATE users SET age = age + $1 WHERE id = $2" := by
  obtain ⟨hdelete, hupdate, -⟩ := changes_need_a_filter
  have hassigned : UpdateCall.assigned [.increment "age" (.int 2), .filter (.eq "id" (.int 1))] =
      [("age", Assigned.increment (.int 2))] := rfl
  refine ⟨((hdelete _ _).refused (by decide) _).1, ?_, (((hupdate _ _).2.1 rfl).2 _).1, ?_⟩
  · rw [(hdelete _ _).literal (by decide)]
    decide +kernel
  · rw [((hupdate _ _).2.2 (hassigned.trans_ne (List.cons_ne_nil _ _))).prepared (by decide)]
    decide +kernel

end SqlAccess
