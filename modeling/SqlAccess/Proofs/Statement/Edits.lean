import Mathlib.Data.List.DropRight
import SqlAccess.Statement.Delete
import SqlAccess.Statement.Update

/-!
# What the calls on a statement leave

The filter and the assignments of a statement grow at their end, and some calls forget all that was
there. Each call is a list of edits, and after any calls exactly those entries stand that were added
since the last time all were forgotten, in the order of the calls.
-/

namespace SqlAccess

/-- A change of something that grows at its end. -/
inductive Edit (α : Type) where
  /-- Forgets all entries. -/
  | clear
  | add (a : α)

namespace Edit

variable {α β : Type}

/-- Whether an edit forgets all entries. -/
def isClear : Edit α → Bool
  | .clear => true
  | .add _ => false

/-- The entry that an edit adds. -/
def added? : Edit α → Option α
  | .clear => none
  | .add a => some a

/-- What an edit makes of something that starts empty and takes entries one by one. -/
def apply (start : β) (put : β → α → β) (b : β) : Edit α → β
  | .clear => start
  | .add a => put b a

/-- The entries that were added since the last time all were forgotten, in order. -/
def standing (edits : List (Edit α)) : List α :=
  (edits.rtakeWhile fun e => !e.isClear).filterMap added?

/-- Without edits nothing stands. -/
@[simp] theorem standing_nil : standing ([] : List (Edit α)) = [] := rfl

/-- Nothing stands after everything is cleared. -/
@[simp] theorem standing_concat_clear (edits : List (Edit α)) :
    standing (edits ++ [.clear]) = [] := by
  rw [standing, List.rtakeWhile_concat_neg _ _ _ (by simp [isClear])]
  rfl

/-- What is added last stands behind the rest. -/
@[simp] theorem standing_concat_add (edits : List (Edit α)) (a : α) :
    standing (edits ++ [.add a]) = standing edits ++ [a] := by
  rw [standing, List.rtakeWhile_concat_pos _ _ _ (by simp [isClear]), List.filterMap_append]
  rfl

/-- An entry that stands was added. -/
theorem mem_of_mem_standing {edits : List (Edit α)} {a : α} (h : a ∈ standing edits) :
    .add a ∈ edits := by
  obtain ⟨e, he, ha⟩ := List.mem_filterMap.mp h
  cases e with
  | clear => cases ha
  | add b =>
    cases ha
    exact (List.rtakeWhile_suffix _ _).subset he

/-- Edits one after another come to putting in the entries that stand. -/
theorem foldl_apply (start : β) (put : β → α → β) (edits : List (Edit α)) :
    edits.foldl (apply start put) start = (standing edits).foldl put start := by
  induction edits using List.reverseRecOn with
  | nil => rfl
  | append_singleton edits e ih =>
    rw [List.foldl_append, ih]
    cases e with
    | clear => rw [standing_concat_clear]; rfl
    | add a => rw [standing_concat_add, List.foldl_append]; rfl

/-- Where every call makes its edits, calls come to putting in the entries that stand after the
edits of all of them. -/
theorem view_foldl {σ γ : Type} {view : σ → β} {call : σ → γ → σ} {edits : γ → List (Edit α)}
    {start : β} {put : β → α → β}
    (h : ∀ q c, view (call q c) = (edits c).foldl (apply start put) (view q)) (cs : List γ) {q : σ}
    (hq : view q = start) :
    view (cs.foldl call q) = (standing (cs.flatMap edits)).foldl put start := by
  have hrun : ∀ q, view (cs.foldl call q) =
      (cs.flatMap edits).foldl (apply start put) (view q) := by
    induction cs with
    | nil => exact fun _ => rfl
    | cons c cs ih =>
      intro q
      rw [List.foldl_cons, ih, h, List.flatMap_cons, List.foldl_append]
  rw [hrun, hq, foldl_apply]

/-- The entries that stand after later edits stand at the end. -/
theorem standing_suffix (edits later : List (Edit α)) :
    standing later <:+ standing (edits ++ later) := by
  induction later using List.reverseRecOn with
  | nil => exact List.nil_suffix
  | append_singleton later e ih =>
    rw [← List.append_assoc]
    cases e with
    | clear => simp
    | add a =>
      rw [standing_concat_add, standing_concat_add]
      exact (List.suffix_append_inj_of_length_eq rfl).mpr ⟨ih, rfl⟩

end Edit

/-! ## Filters -/

/-- A filter with an entry at its end. -/
def Filter.put (f : Filter) (e : FilterEntry) : Filter := ⟨f.entries ++ [e]⟩

namespace FilterCall

/-- The entry that a call adds. A filter without entries is not nested. -/
def entry? : FilterCall → Option FilterEntry
  | .and column op value => some (.condition { column, op, value })
  | .or column op value => some (.condition { column, op, value, connective := .or })
  | .condition c => some (.condition c)
  | .restart column op value => some (.condition { column, op, value })
  | .nested connective f => if f.isEmpty then none else some (.nested connective f.entries)
  | .raw sql => some (.raw .and sql)
  | .eq column value => some (.condition { column, op := .eq, value })
  | .ne column value => some (.condition { column, op := .ne, value })
  | .gt column value => some (.condition { column, op := .gt, value })
  | .ge column value => some (.condition { column, op := .ge, value })
  | .lt column value => some (.condition { column, op := .lt, value })
  | .le column value => some (.condition { column, op := .le, value })
  | .like column value => some (.condition { column, op := .like, value })
  | .notLike column value => some (.condition { column, op := .notLike, value })
  | .isIn column values => some (.condition { column, op := .isIn, value := .list values })
  | .notIn column values => some (.condition { column, op := .notIn, value := .list values })
  | .between column low high =>
    some (.condition { column, op := .between, value := .list [low, high] })
  | .isNull column => some (.condition { column, op := .isNull, value := .null })
  | .isNotNull column => some (.condition { column, op := .isNotNull, value := .null })

/-- Whether a call forgets the entries before it. -/
def restarts : FilterCall → Bool
  | .restart _ _ _ => true
  | _ => false

/-- Whether a call has an effect: only nesting a filter without entries has none. -/
def isEffective : FilterCall → Bool
  | .nested _ f => !f.isEmpty
  | _ => true

/-- The edits of a call. -/
def edits (c : FilterCall) : List (Edit FilterEntry) :=
  (if c.restarts then [.clear] else []) ++ (c.entry?.map Edit.add).toList

/-- A call adds nothing but its entry. -/
theorem entry?_of_mem_edits {c : FilterCall} {e : FilterEntry} (h : .add e ∈ c.edits) :
    c.entry? = some e := by
  rcases List.mem_append.mp h with h | h
  · split at h <;> simp at h
  · obtain ⟨_, hentry, ⟨⟩⟩ := Option.map_eq_some_iff.mp (Option.mem_toList.mp h)
    exact hentry

/-- A call without effect edits nothing. -/
theorem edits_of_not_isEffective {c : FilterCall} (h : c.isEffective = false) : c.edits = [] := by
  cases c <;> simp_all [isEffective, edits, restarts, entry?]

/-- After a call with an effect an entry stands. -/
theorem standing_edits_ne_nil {c : FilterCall} (h : c.isEffective = true) :
    Edit.standing c.edits ≠ [] := by
  cases c <;> simp_all [isEffective, edits, restarts, entry?, Edit.standing, Edit.isClear,
    Edit.added?, List.rtakeWhile]

end FilterCall

/-- A call makes its edits. -/
theorem Filter.call_eq (f : Filter) (c : FilterCall) :
    f.call c = c.edits.foldl (Edit.apply .empty put) f := by
  cases c with
  | nested connective g =>
    by_cases hg : g.isEmpty <;>
      simp [Filter.call, Filter.addNested, FilterCall.edits, FilterCall.restarts,
        FilterCall.entry?, Edit.apply, put, hg]
  | _ => rfl

/-- Entries put into the empty filter are its entries. -/
theorem Filter.foldl_put_empty (entries : List FilterEntry) :
    entries.foldl put .empty = ⟨entries⟩ := by
  induction entries using List.reverseRecOn with
  | nil => rfl
  | append_singleton entries e ih => rw [List.foldl_append, ih]; rfl

/-! ## Steps of a filter -/

/-- What a call on a statement means to its filter. -/
inductive FilterStep where
  | keep
  /-- Forgets the filter together with everything else. -/
  | reset
  | call (c : FilterCall)

namespace FilterStep

/-- The edits of a step. -/
def edits : FilterStep → List (Edit FilterEntry)
  | .keep => []
  | .reset => [.clear]
  | .call c => c.edits

/-- Whether a step forgets everything. -/
def isReset : FilterStep → Bool
  | .reset => true
  | _ => false

/-- Whether a step adds to the filter. -/
def isEffective : FilterStep → Bool
  | .call c => c.isEffective
  | _ => false

/-- The entries of the filter that stand after steps. -/
def standing (steps : List FilterStep) : List FilterEntry := Edit.standing (steps.flatMap edits)

/-- No step since the last reset has added to the filter. -/
def Unfiltered (steps : List FilterStep) : Prop :=
  ∀ s ∈ steps.rtakeWhile fun s => !s.isReset, s.isEffective = false

instance (steps : List FilterStep) : Decidable (Unfiltered steps) :=
  inferInstanceAs (Decidable (∀ s ∈ steps.rtakeWhile fun s => !s.isReset, s.isEffective = false))

/-- An entry that stands was added by a call. -/
theorem exists_of_mem_standing {steps : List FilterStep} {e : FilterEntry}
    (h : e ∈ standing steps) : ∃ c, .call c ∈ steps ∧ c.entry? = some e := by
  obtain ⟨s, hs, he⟩ := List.mem_flatMap.mp (Edit.mem_of_mem_standing h)
  cases s with
  | keep => simp [edits] at he
  | reset => simp [edits] at he
  | call c => exact ⟨c, hs, FilterCall.entry?_of_mem_edits he⟩

/-- No entry stands exactly when no step since the last reset has added one. -/
theorem standing_eq_nil_iff (steps : List FilterStep) : standing steps = [] ↔ Unfiltered steps := by
  induction steps using List.reverseRecOn with
  | nil => simp [standing, Unfiltered]
  | append_singleton steps s ih =>
    rw [standing, List.flatMap_append, List.flatMap_singleton, Unfiltered]
    cases s with
    | keep =>
      rw [List.rtakeWhile_concat_pos _ _ _ rfl, List.forall_mem_append, ← Unfiltered, ← ih]
      simp [standing, edits, isEffective]
    | reset =>
      rw [List.rtakeWhile_concat_neg _ _ _ (by simp [isReset])]
      simp [edits]
    | call c =>
      rw [List.rtakeWhile_concat_pos _ _ _ rfl, List.forall_mem_append, ← Unfiltered, ← ih]
      cases hc : c.isEffective with
      | false =>
        have hedits : edits (.call c) = [] := FilterCall.edits_of_not_isEffective hc
        simp [standing, hedits, isEffective, hc]
      | true =>
        have hstanding : Edit.standing (steps.flatMap edits ++ edits (.call c)) ≠ [] := by
          intro h
          have hsuffix := Edit.standing_suffix (steps.flatMap edits) c.edits
          exact FilterCall.standing_edits_ne_nil hc (List.suffix_nil.mp (h ▸ hsuffix))
        simp [hstanding, isEffective, hc]

end FilterStep

/-! ## Calls on a delete -/

/-- What a call on a delete means to its filter. -/
def DeleteCall.step : DeleteCall → FilterStep
  | .dialect _ => .keep
  | .reset => .reset
  | .filter c => .call c

namespace Delete

/-- No call changes the table of a deletion. -/
theorem table_calls (q : Delete) (cs : List DeleteCall) : (q.calls cs).table = q.table := by
  induction cs generalizing q with
  | nil => rfl
  | cons c cs ih => rw [calls, List.foldl_cons, ← calls, ih]; cases c <;> rfl

/-- A call on a delete makes the edits of its step. -/
theorem filter_call (q : Delete) (c : DeleteCall) :
    (q.call c).filter = c.step.edits.foldl (Edit.apply .empty .put) q.filter := by
  cases c with
  | filter c => rw [call, Filter.call_eq]; rfl
  | _ => rfl

/-- The filter of a delete after calls has the entries that stand. -/
theorem filter_calls (table : String) (cs : List DeleteCall) :
    ((ofTable table).calls cs).filter = ⟨FilterStep.standing (cs.map DeleteCall.step)⟩ := by
  rw [calls, Edit.view_foldl filter_call cs rfl, Filter.foldl_put_empty, FilterStep.standing,
    List.flatMap_map]

end Delete

/-! ## Calls on an update -/

namespace UpdateCall

/-- What a call on an update means to its filter. -/
def step : UpdateCall → FilterStep
  | .reset => .reset
  | .filter c => .call c
  | _ => .keep

/-- What a call on an update does to its assignments. -/
def assigns : UpdateCall → List (Edit (String × Assigned))
  | .set column value => [.add (column, .value value)]
  | .setOption column value => (value.map fun v => Edit.add (column, .value v)).toList
  | .setExpression column sql => [.add (column, .expression sql)]
  | .increment column value => [.add (column, .increment value)]
  | .restart pairs => .clear :: pairs.map fun p => .add (p.1, .value p.2)
  | .reset => [.clear]
  | _ => []

/-- The assignments that stand after calls, in the order of the calls. -/
def assigned (cs : List UpdateCall) : List (String × Assigned) :=
  Edit.standing (cs.flatMap assigns)

end UpdateCall

namespace Update

/-- No call changes the table of an update. -/
theorem table_calls (q : Update) (cs : List UpdateCall) : (q.calls cs).table = q.table := by
  induction cs generalizing q with
  | nil => rfl
  | cons c cs ih =>
    rw [calls, List.foldl_cons, ← calls, ih]
    cases c with
    | setOption column value => cases value <;> rfl
    | _ => rfl

/-- A call on an update makes the edits of its step. -/
theorem filter_call (q : Update) (c : UpdateCall) :
    (q.call c).filter = c.step.edits.foldl (Edit.apply .empty .put) q.filter := by
  cases c with
  | filter c => rw [call, Filter.call_eq]; rfl
  | setOption column value => cases value <;> rfl
  | _ => rfl

/-- A call on an update makes its edits of the assignments. -/
theorem assignments_call (q : Update) (c : UpdateCall) :
    (q.call c).assignments =
      c.assigns.foldl (Edit.apply .empty fun s p => s.set p.1 p.2) q.assignments := by
  cases c with
  | setOption column value => cases value <;> rfl
  | restart pairs =>
    simp [call, UpdateCall.assigns, Assignments.ofList, Assignments.setAll, List.foldl_map,
      Edit.apply]
  | _ => rfl

/-- The filter of an update after calls has the entries that stand. -/
theorem filter_calls (table : String) (cs : List UpdateCall) :
    ((ofTable table).calls cs).filter = ⟨FilterStep.standing (cs.map UpdateCall.step)⟩ := by
  rw [calls, Edit.view_foldl filter_call cs rfl, Filter.foldl_put_empty, FilterStep.standing,
    List.flatMap_map]

/-- The assignments of an update after calls are those that stand. -/
theorem assignments_calls (table : String) (cs : List UpdateCall) :
    ((ofTable table).calls cs).assignments = .ofList (UpdateCall.assigned cs) :=
  Edit.view_foldl assignments_call cs rfl

end Update

/-! ## Assignments -/

namespace Assignments

variable {α : Type}

/-- Something is assigned after an assignment. -/
private theorem put_ne_nil (column : String) (a : α) (entries : List (String × α)) :
    put column a entries ≠ [] := by
  cases entries with
  | nil => simp [put]
  | cons e entries =>
    rw [put]
    split <;> simp

/-- Assignments are empty only where nothing is assigned. -/
theorem isEmpty_ofList (pairs : List (String × α)) : (ofList pairs).isEmpty = pairs.isEmpty := by
  obtain rfl | ⟨pairs, p, rfl⟩ := pairs.eq_nil_or_concat'
  · rfl
  · have hfull : (ofList (pairs ++ [p])).entries.isEmpty = false := by
      rw [ofList, setAll, List.foldl_append]
      exact List.isEmpty_eq_false_iff.mpr (put_ne_nil _ _ _)
    simp [isEmpty, hfull]

end Assignments

end SqlAccess
