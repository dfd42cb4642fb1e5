import SqlAccess.Proofs.Binding.Escaping
import SqlAccess.Proofs.Placeholder.Statement
import SqlAccess.Proofs.Statement.Counting
import SqlAccess.Proofs.Statement.FirstFault

/-!
# Lists and the binder

No list is bound. A membership and a range bind the items of a list, comparisons and patterns refuse
it, and every other operator does not bind its value. So the parameters of a statement hold a
list only if one was assigned to a column or stood inside another list; all others pass the
binder. Parameters with a list in them are refused, with the position of the first one.
-/

namespace SqlAccess

namespace Value

/-- Whether a value is a list. -/
def isList (v : Value) : Bool := v.kind = .list

/-- A value is a list exactly if it is made of items. -/
theorem isList_eq_true_iff {v : Value} : v.isList = true ↔ ∃ items, v = .list items := by
  rw [isList, decide_eq_true_eq, Condition.kind_eq_list_iff]

/-- Whether no item of a value is a list itself. -/
def isShallow : Value → Bool
  | .list items => items.all fun item => !item.isList
  | _ => true

/-- A shallow list holds no lists. -/
theorem isList_of_isShallow {items : List Value} (h : (Value.list items).isShallow = true)
    {item : Value} (hi : item ∈ items) : item.isList = false := by
  simpa using List.all_eq_true.mp h item hi

end Value

/-! ## What conditions bind -/

namespace Condition

/-- The bounds of a range are no lists. -/
private theorem isList_of_mem_bounds {v low : Value} (hs : v.isShallow = true)
    (h : low ∈ bounds v) : low.isList = false := by
  cases v with
  | list items => exact Value.isList_of_isShallow hs h
  | _ =>
    obtain ⟨piece, -, rfl⟩ := List.mem_map.mp h
    rfl

/-- A condition that is written binds no list. -/
theorem isList_of_mem_bindings {c : Condition} {f : Fragment} (hr : c.render = .ok f)
    (hs : c.value.isShallow = true) {v : Value} (hv : v ∈ c.bindings) : v.isList = false := by
  cases shape_of_render hr with
  | test ending hend hc =>
    rw [bindings_of_test hc] at hv
    cases hv
  | raw hn hc =>
    rw [bindings_of_isRaw hc] at hv
    cases hv
  | range hn hc hf =>
    rw [bindings_of_between hn hc] at hv
    exact isList_of_mem_bounds hs hv
  | member hn hc =>
    rw [bindings_of_member hn hc] at hv
    split at hv
    · rename_i items hvalue
      rw [hvalue] at hs
      exact Value.isList_of_isShallow hs hv
    · cases hv
    · rename_i hlist _
      rw [List.mem_singleton.mp hv, Bool.eq_false_iff]
      intro h
      obtain ⟨items, hitems⟩ := Value.isList_eq_true_iff.mp h
      exact hlist items hitems
  | instant hn hc =>
    obtain ⟨hop, htemporal⟩ := Bool.and_eq_true_iff.mp hc
    rw [bindings_of_single hn (.inl hop)] at hv
    rw [Value.isTemporal, decide_eq_true_eq] at htemporal
    rw [List.mem_singleton.mp hv, Value.isList, htemporal]
    rfl
  | bound hn hc hi hl =>
    rw [bindings_of_single hn hc] at hv
    rw [List.mem_singleton.mp hv]
    simpa [Value.isList] using hl

end Condition

namespace Filter

/-- A filter is written only if each of its conditions is. -/
theorem forall_render_of_rendering {g : Filter} {f : Fragment} (h : g.rendering = .ok f) :
    ∀ c ∈ g.conditions, ∃ f, c.render = .ok f := by
  rcases Condition.all_ok_or_exists_first g.conditions with
    hall | ⟨before, c, after, fault, hsplit, hbefore, hfault⟩
  · exact hall
  · have hreport := g.report_eq
    rw [h, hsplit, Report.ofConditions_of_first hbefore hfault] at hreport
    cases congrArg Report.cause hreport

/-- What a filter binds is bound by one of its conditions. -/
private theorem exists_condition_of_mem_bindings {g : Filter} {v : Value} (h : v ∈ g.bindings) :
    ∃ c ∈ g.conditions, v ∈ c.bindings := by
  obtain ⟨leaf, hleaf, hv⟩ := List.mem_flatMap.mp h
  cases leaf with
  | condition c => exact ⟨c, List.mem_filterMap.mpr ⟨_, hleaf, rfl⟩, hv⟩
  | raw sql => cases hv

/-- A filter that is written binds no list, unless one stands inside another. -/
theorem isList_of_mem_bindings {g : Filter} {f : Fragment} (h : g.rendering = .ok f)
    (hs : ∀ c ∈ g.conditions, c.value.isShallow = true) {v : Value} (hv : v ∈ g.bindings) :
    v.isList = false := by
  obtain ⟨c, hc, hvc⟩ := exists_condition_of_mem_bindings hv
  obtain ⟨f', hf'⟩ := forall_render_of_rendering h c hc
  exact Condition.isList_of_mem_bindings hf' (hs c hc) hvc

end Filter

/-! ## What statements bind -/

namespace Form

/-- The values that a statement assigns to columns, increments among them. -/
def assigned : Form → List Value
  | .insert q => q.values.values
  | .update q => q.assignments.values.flatMap Assigned.bindings
  | _ => []

/-- The filters of a statement. -/
def filters : Form → List Filter
  | .select q => [q.filter, q.groupFilter]
  | .count q => [q.filter, q.groupFilter]
  | .insert _ => []
  | .update q => [q.filter]
  | .delete q => [q.filter]

/-- The conditions of a statement are those of its filters. -/
private theorem conditions_eq (s : Form) : s.conditions = s.filters.flatMap Filter.conditions := by
  cases s <;> simp [conditions, filters, Select.conditions]

/-- A statement binds what it assigns and then what its filters bind. -/
private theorem bindings_eq (s : Form) :
    s.bindings = s.assigned ++ s.filters.flatMap Filter.bindings := by
  cases s <;> simp [bindings, assigned, filters, Select.bindings, Update.bindings, Insert.bindings]

/-- A statement is written only if its filters are. -/
theorem rendering_of_fragment {s : Form} {f : Fragment} (h : s.fragment = .ok f) {g : Filter}
    (hg : g ∈ s.filters) : ∃ w, g.rendering = .ok w := by
  have hbody {q : Select} {b : Fragment} (h : q.body = .ok b) (hg : g ∈ [q.filter, q.groupFilter]) :
      ∃ w, g.rendering = .ok w := by
    rw [Select.body_eq] at h
    cases hw : q.filter.rendering with
    | error r =>
      rw [hw] at h
      cases h
    | ok w =>
      cases hh : q.groupFilter.rendering with
      | error r =>
        rw [hw, hh] at h
        cases h
      | ok w' =>
        simp only [List.mem_cons, List.not_mem_nil, or_false] at hg
        rcases hg with rfl | rfl
        · exact ⟨w, hw⟩
        · exact ⟨w', hh⟩
  cases s with
  | select q =>
    obtain ⟨b, hb, -⟩ := exists_of_map_eq_ok h
    exact hbody hb hg
  | count q =>
    obtain ⟨b, hb, -⟩ := exists_of_map_eq_ok h
    exact hbody hb hg
  | insert q => cases hg
  | update q =>
    rw [fragment, Update.fragment] at h
    split at h
    · cases h
    · split at h
      · cases h
      · obtain ⟨w, hw, -⟩ := exists_of_map_eq_ok h
        rw [List.mem_singleton.mp hg]
        exact ⟨w, Rendering.eq_ok_of_result hw⟩
  | delete q =>
    rw [fragment, Delete.fragment] at h
    split at h
    · cases h
    · obtain ⟨w, hw, -⟩ := exists_of_map_eq_ok h
      rw [List.mem_singleton.mp hg]
      exact ⟨w, Rendering.eq_ok_of_result hw⟩

/-- A statement that is prepared binds no list, unless one is assigned or stands inside another. -/
theorem isList_of_mem_parameters {s : Form} {d : Dialect} {p : Prepared}
    (h : s.prepareFor d = .ok p) (ha : ∀ v ∈ s.assigned, v.isList = false)
    (hs : ∀ c ∈ s.conditions, c.value.isShallow = true) :
    ∀ v ∈ p.parameters.values, v.isList = false := by
  intro v hv
  rw [s.prepareFor_eq] at h
  obtain ⟨f, hf, rfl⟩ := exists_of_map_eq_ok h
  have hvalues : (Fragment.prepare d f).parameters.values = s.bindings :=
    (carries_of_fragment hf).values_eq
  rw [hvalues, bindings_eq] at hv
  rcases List.mem_append.mp hv with hv | hv
  · exact ha v hv
  · obtain ⟨g, hg, hvg⟩ := List.mem_flatMap.mp hv
    obtain ⟨w, hw⟩ := rendering_of_fragment hf hg
    refine Filter.isList_of_mem_bindings hw (fun c hc => hs c ?_) hvg
    rw [conditions_eq]
    exact List.mem_flatMap.mpr ⟨g, hg, hc⟩

end Form

/-! ## What the binder makes of it -/

namespace Binder

/-- The first list is refused with its position. -/
theorem check_of_first_list (position : Nat) {before : List Value}
    (hb : ∀ v ∈ before, v.isList = false) (items after : List Value) :
    (check position (before ++ .list items :: after)).2 =
      .error (listRefused (position + before.length)) := by
  induction before generalizing position with
  | nil => rfl
  | cons v before ih =>
    obtain ⟨hv, hrest⟩ := List.forall_mem_cons.mp hb
    have hnext := ih (position + 1) hrest
    rw [Nat.add_assoc, Nat.add_comm 1] at hnext
    cases v with
    | list items => cases hv
    | _ => exact hnext

/-- A value as it is bound: the same, or a text for a text. -/
def SameButText (v bound : Value) : Prop :=
  v = bound ∨ ∃ s t, v = .text s ∧ bound = .text t

/-- Escaping changes nothing but texts. -/
private theorem sameButText_escaped (v : Value) : SameButText v (escaped v) := by
  cases v with
  | text s => exact .inr ⟨s, _, rfl, rfl⟩
  | _ => exact .inl rfl

/-- Values without a list are bound in order, and nothing but texts is changed. -/
theorem exists_bound {values : List Value} (h : ∀ v ∈ values, v.isList = false) (b : Binder) :
    ∃ bound, (b.bind values).2 = .ok bound ∧ List.Forall₂ SameButText values bound.values := by
  have hnone : ∀ items, .list items ∉ values := fun items hm => by cases h _ hm
  rw [bind_snd, check_of_noList 1 hnone]
  refine ⟨_, rfl, ?_⟩
  split
  · exact List.forall₂_map_right_iff.mpr (List.forall₂_same.mpr fun v _ => sameButText_escaped v)
  · exact List.forall₂_same.mpr fun v _ => .inl rfl

/-- What is prepared can be bound. Unless a list is assigned to a column, or stands inside another
in a filter at any depth, the parameters of a statement hold no list, and with the filter for
injections on or off the binder takes them in their order and changes nothing but texts. The other
way round, of all values with a list among them the binder names the position of the first. -/
theorem prepared_values_are_bound :
    (∀ (s : Form) (d : Dialect) (p : Prepared), s.prepareFor d = .ok p →
      (∀ v ∈ s.assigned, v.isList = false) → (∀ c ∈ s.conditions, c.value.isShallow = true) →
      (∀ v ∈ p.parameters.values, v.isList = false) ∧
      ∀ b : Binder, ∃ bound, (b.bind p.parameters.values).2 = .ok bound ∧
        List.Forall₂ SameButText p.parameters.values bound.values) ∧
    ∀ (b : Binder) (values : List Value), (∃ v ∈ values, v.isList = true) →
      ∃ before items after, values = before ++ .list items :: after ∧
        (∀ v ∈ before, v.isList = false) ∧
        (b.bind values).2 = .error (.validation ("parameter " ++ toString (before.length + 1) ++
          " is a list; expand it into one placeholder per element")) := by
  constructor
  · intro s d p hp ha hs
    have hnone := Form.isList_of_mem_parameters hp ha hs
    exact ⟨hnone, exists_bound hnone⟩
  · intro b values hlist
    obtain ⟨v, hfirst⟩ := Option.isSome_iff_exists.mp (List.find?_isSome.mpr hlist)
    obtain ⟨hv, before, after, rfl, hbefore⟩ := List.find?_eq_some_iff_append.mp hfirst
    obtain ⟨items, rfl⟩ := Value.isList_eq_true_iff.mp hv
    have hnone : ∀ v ∈ before, v.isList = false := by simpa using hbefore
    refine ⟨before, items, after, rfl, hnone, ?_⟩
    rw [bind_snd, check_of_first_list 1 hnone, listRefused, Nat.add_comm]
    rfl

/-- A query for members of a list, within a nested filter and for groups beyond two bounds. -/
def listedQuery : Form :=
  .select
    { source := "users"
      filter := (Filter.empty.and "kind" .isIn (.list [.text "a'", .null])).addNested .or
        (Filter.empty.and "day" .between (.text "1, 2"))
      groups := ["kind"]
      groupFilter := Filter.empty.and "COUNT(*)" .between (.list [.int 2, .int 9]) }

set_option maxRecDepth 8000 in
/-- The query binds the items of its lists, with the filter on and off, and a list in the second
place is refused by its position. -/
theorem listedQuery_is_bound :
    ∃ p, listedQuery.prepareFor .postgres = .ok p ∧
      (∀ v ∈ listedQuery.assigned, v.isList = false) ∧
      (∀ c ∈ listedQuery.conditions, c.value.isShallow = true) ∧
      (∀ v ∈ p.parameters.values, v.isList = false) ∧
      (∀ b : Binder, ∃ bound, (b.bind p.parameters.values).2 = .ok bound ∧
        List.Forall₂ SameButText p.parameters.values bound.values) ∧
      ((Binder.mk true).bind [.null, .list [.int 1], .list []]).2 = .error
        (.validation "parameter 2 is a list; expand it into one placeholder per element") := by
  obtain ⟨hprepared, hrefused⟩ := prepared_values_are_bound
  have hp : listedQuery.prepareFor .postgres = .ok
      ⟨"SELECT * FROM users WHERE kind IN ($1,$2) OR (day BETWEEN $3 AND $4) GROUP BY kind " ++
        "HAVING COUNT(*) BETWEEN $5 AND $6", ⟨listedQuery.bindings⟩⟩ := rfl
  have ha : ∀ v ∈ listedQuery.assigned, v.isList = false := fun v hv => by cases hv
  have hs : ∀ c ∈ listedQuery.conditions, c.value.isShallow = true :=
    List.all_eq_true.mp (by decide)
  obtain ⟨hnone, hbound⟩ := hprepared listedQuery .postgres _ hp ha hs
  refine ⟨_, hp, ha, hs, hnone, hbound, ?_⟩
  obtain ⟨before, items, after, hsplit, hbefore, hbind⟩ :=
    hrefused ⟨true⟩ [.null, .list [.int 1], .list []] ⟨.list [], by simp, rfl⟩
  rcases before with _ | ⟨v, _ | ⟨w, before⟩⟩
  · simp at hsplit
  · have htext : "parameter " ++ toString (1 + 1) ++
        " is a list; expand it into one placeholder per element" =
          "parameter 2 is a list; expand it into one placeholder per element" := by decide
    rw [← htext]
    exact hbind
  · simp only [List.cons_append, List.cons.injEq] at hsplit
    rw [← hsplit.2.1] at hbefore
    cases hbefore (.list [.int 1]) (by simp)

end Binder

end SqlAccess
