import SqlAccess.Proofs.Statement.Shape

/-!
# Which conditions are accepted

A condition is refused for four reasons, and for no other: it has no column, or its operator looks
at its value and the value is unsuited, a list, or not the bounds of a range. With literals and with
placeholders it is refused alike, and a refusal binds nothing. What is accepted begins with the
column, apart from memberships in no list at all and from points in time written as literals.
-/

namespace SqlAccess

namespace Condition

variable {c : Condition}

/-! ## Reasons to refuse a condition -/

/-- The operator looks at the value: it is no test for NULL and not raw, and the value is not
NULL. -/
structure WeighsValue (c : Condition) : Prop where
  notNullTest : c.op ≠ .isNull ∧ c.op ≠ .isNotNull
  notRaw : c.op.isRaw = false
  notNull : c.value.isNull = false

/-- The bounds of a value make a range: they are two, or one that has a text. -/
def FitsRange (v : Value) : Prop :=
  (∃ low high, bounds v = [low, high]) ∨ ∃ low, bounds v = [low] ∧ low.raw ≠ ""

/-- The reasons to refuse a condition. -/
inductive Unacceptable (c : Condition) : Prop
  /-- There is no column. -/
  | emptyColumn (h : c.trimmedColumn = "")
  /-- A pattern or a range got a number or a point in time. -/
  | unsuited (hw : c.WeighsValue) (hop : (c.op = .like ∨ c.op = .notLike) ∨ c.op = .between)
      (hv : c.value.isNumeric = true ∨ c.value.isTemporal = true)
  /-- A comparison or a pattern got a list. -/
  | list (hw : c.WeighsValue) (hop : c.op.isComparison = true ∨ c.op = .like ∨ c.op = .notLike)
      (hv : ∃ items, c.value = .list items)
  /-- A range got no bounds. -/
  | bounds (hw : c.WeighsValue) (hop : c.op = .between) (hv : ¬ FitsRange c.value)

/-- A value is of the kind of lists exactly if it is made of items. -/
theorem kind_eq_list_iff {v : Value} : v.kind = .list ↔ ∃ items, v = .list items := by
  cases v <;> simp [Value.kind]

/-- A range is written exactly when it has bounds. -/
theorem rangeFragment_eq_error_iff {column : String} {v : Value} :
    (∃ fault, rangeFragment column v = .error fault) ↔ ¬ FitsRange v := by
  unfold rangeFragment FitsRange
  split
  · rename_i low hb
    split
    · rename_i he
      simp [hb, String.isEmpty_iff.mp he]
    · rename_i he
      have hne : low.raw ≠ "" := fun h => he (String.isEmpty_iff.mpr h)
      simp [hb, hne]
  · rename_i low high hb
    simp [hb]
  · rename_i hone htwo
    simp only [Except.error.injEq, exists_eq', true_iff, not_or, not_exists, not_and]
    exact ⟨fun low high hb => htwo low high hb, fun low hb => absurd hb (hone low)⟩

/-- A condition is refused if there is a reason. -/
theorem Unacceptable.exists_fault (h : c.Unacceptable) : ∃ fault, c.render = .error fault := by
  cases he : c.trimmedColumn.isEmpty with
  | true => exact ⟨_, render_of_isEmpty he⟩
  | false =>
    cases h with
    | emptyColumn h =>
      rw [h] at he
      cases he
    | unsuited hw hop hv =>
      have hkind : c.value.kind = .numeric ∨ c.value.kind = .temporal := by
        simpa [Value.isNumeric, Value.isTemporal] using hv
      rcases hop with hop | hop
      · rw [render_of_pattern he hw.notNull hop]
        rcases hkind with hkind | hkind <;> rw [hkind] <;> exact ⟨_, rfl⟩
      · rw [render_of_between he hw.notNull hop]
        rcases hkind with hkind | hkind <;> rw [hkind] <;> exact ⟨_, rfl⟩
    | list hw hop hv =>
      have hkind := kind_eq_list_iff.mpr hv
      rcases hop with hop | hop
      · rw [render_of_isComparison he hw.notNull hop, hkind]
        exact ⟨_, rfl⟩
      · rw [render_of_pattern he hw.notNull hop, hkind]
        exact ⟨_, rfl⟩
    | bounds hw hop hv =>
      rw [render_of_between he hw.notNull hop]
      cases c.value.kind with
      | numeric => exact ⟨_, rfl⟩
      | temporal => exact ⟨_, rfl⟩
      | null | text | list => exact rangeFragment_eq_error_iff.mpr hv

/-- A condition that is refused for its value weighs the value. -/
theorem weighsValue_of_render {fault : ConditionFault} (he : c.trimmedColumn.isEmpty = false)
    (h : c.render = .error fault) : c.WeighsValue := by
  have htest : ¬ (c.op = .isNull ∨ c.op = .isNotNull) := by
    rintro (ho | ho) <;> simp [render, he, ho] at h
  obtain ⟨hnull, hnotNull⟩ := not_or.mp htest
  have hn : c.value.isNull = false := by
    rw [← Bool.not_eq_true]
    intro hn
    rw [render_of_isNull he hn hnull hnotNull] at h
    cases h
  refine ⟨⟨hnull, hnotNull⟩, ?_, hn⟩
  rw [← Bool.not_eq_true]
  intro hraw
  rw [render_of_isRaw he hn hraw] at h
  cases h

/-- A condition is refused only if there is a reason: tests for NULL and raw conditions weigh no
value, and each other kind of operator refuses some kinds of values only. -/
theorem unacceptable_of_render {fault : ConditionFault} (h : c.render = .error fault) :
    c.Unacceptable := by
  cases he : c.trimmedColumn.isEmpty with
  | true => exact .emptyColumn (String.isEmpty_iff.mp he)
  | false =>
    have hw := weighsValue_of_render he h
    rcases c.op.kinds with hc | hc | hc | hc | hc | hc
    · exact absurd hc (not_or.mpr hw.notNullTest)
    · rw [hw.notRaw] at hc
      cases hc
    · rw [render_of_isComparison he hw.notNull hc] at h
      cases hk : c.value.kind with
      | list => exact .list hw (.inl hc) (kind_eq_list_iff.mp hk)
      | null | numeric | temporal | text =>
        rw [hk] at h
        cases h
    · rw [render_of_pattern he hw.notNull hc] at h
      cases hk : c.value.kind with
      | numeric => exact .unsuited hw (.inl hc) (.inl (by simp [Value.isNumeric, hk]))
      | temporal => exact .unsuited hw (.inl hc) (.inr (by simp [Value.isTemporal, hk]))
      | list => exact .list hw (.inr hc) (kind_eq_list_iff.mp hk)
      | null | text =>
        rw [hk] at h
        cases h
    · rw [render_of_between he hw.notNull hc] at h
      cases hk : c.value.kind with
      | numeric => exact .unsuited hw (.inr hc) (.inl (by simp [Value.isNumeric, hk]))
      | temporal => exact .unsuited hw (.inr hc) (.inr (by simp [Value.isTemporal, hk]))
      | null | text | list =>
        rw [hk] at h
        exact .bounds hw hc (rangeFragment_eq_error_iff.mp ⟨fault, h⟩)
    · rw [render_of_member he hw.notNull hc] at h
      cases h

/-! ## How a condition begins -/

/-- How a condition is written: with literals, or with placeholders after the given parameters. -/
inductive Mode
  | literal
  | prepared (given : Parameters)

/-- The text of a condition in a mode. -/
def write (c : Condition) (d : Dialect) : Mode → Except DbError String
  | .literal => c.literal d
  | .prepared given => (c.prepareAfter d given).1

/-- A condition asks for membership in no list at all. -/
def AsksForNothing (c : Condition) : Prop :=
  (c.op = .isIn ∨ c.op = .notIn) ∧ c.value = .list []

/-- How the text of a condition begins. -/
inductive Begins (c : Condition) (d : Dialect) (m : Mode) : String → Prop
  /-- Nothing is in no list. -/
  | never (hop : c.op = .isIn) (hv : c.value = .list []) : Begins c d m "1=0"
  /-- Everything is outside of no list. -/
  | always (hop : c.op = .notIn) (hv : c.value = .list []) : Begins c d m "1=1"
  /-- The column stands in the form that the dialect compares with compact texts. -/
  | instant (hm : m = .literal) (hc : c.comparesInstant = true) (rest : String) :
    Begins c d m (d.temporalColumn c.trimmedColumn ++ rest)
  /-- The column stands as it is. -/
  | column (ha : ¬ c.AsksForNothing) (hm : m = .literal → c.comparesInstant = false)
      (rest : String) : Begins c d m (c.trimmedColumn ++ rest)

/-- The text of a fragment in a mode. -/
def Mode.text (d : Dialect) (f : Fragment) : Mode → String
  | .literal => f.literal d
  | .prepared given => f.prepared d given.size

/-- A condition that can be written is written from its fragment in either mode. -/
theorem write_of_ok {f : Fragment} (h : c.render = .ok f) (d : Dialect) (m : Mode) :
    c.write d m = .ok (m.text d f) := by
  have hr : c.rendering = .ok f := by rw [rendering, h]
  cases m with
  | literal =>
    rw [write, literal, hr]
    rfl
  | prepared given =>
    rw [write, prepareAfter, hr]
    rfl

/-- A condition that cannot be prepared is refused for its fault, and the parameters stay as they
are. -/
theorem prepareAfter_of_error {fault : ConditionFault} (h : c.render = .error fault) (d : Dialect)
    (p : Parameters) :
    c.prepareAfter d p = (.error (.invalidCondition c.trimmedColumn fault.reason), p) := by
  rw [prepareAfter, rendering, h, Rendering.prepareAfter]
  exact congrArg (Prod.mk _) (congrArg Parameters.mk (List.append_nil p.values))

/-- A condition that cannot be written is refused for its fault in either mode. -/
private theorem write_of_error {fault : ConditionFault} (h : c.render = .error fault) (d : Dialect)
    (m : Mode) : c.write d m = .error (.invalidCondition c.trimmedColumn fault.reason) := by
  cases m with
  | literal =>
    rw [write, literal, rendering, h]
    rfl
  | prepared given => exact congrArg Prod.fst (prepareAfter_of_error h d given)

/-- A fragment that begins with the column is written so. -/
theorem begins_column (ha : ¬ c.AsksForNothing) (hi : c.comparesInstant = false) (d : Dialect)
    (m : Mode) (ending : String) (f : Fragment) :
    c.Begins d m (m.text d (.text (c.trimmedColumn ++ ending) :: f)) := by
  cases m with
  | literal =>
    rw [Mode.text, Fragment.literal, Segment.literal, String.append_assoc]
    exact .column ha (fun _ => hi) _
  | prepared given =>
    rw [Mode.text, Fragment.prepared, Segment.prepared, String.append_assoc]
    exact .column ha (fun _ => hi) _

/-- So is a fragment that begins with the column and the symbol of the operator. -/
theorem begins_symbol (ha : ¬ c.AsksForNothing) (hi : c.comparesInstant = false) (d : Dialect)
    (m : Mode) (opening : String) (f : Fragment) :
    c.Begins d m (m.text d (.text (c.trimmedColumn ++ " " ++ c.op.symbol ++ opening) :: f)) := by
  rw [String.append_assoc, String.append_assoc]
  exact begins_column ha hi d m _ f

/-- A fixed text is written as it is in either mode. -/
theorem Mode.text_singleton (d : Dialect) (m : Mode) (s : String) : m.text d [.text s] = s := by
  cases m <;> exact String.append_empty

/-- Only comparisons compare instants. -/
theorem comparesInstant_of_op (h : c.op.isComparison = false) : c.comparesInstant = false := by
  rw [comparesInstant, h, Bool.false_and]

/-- No instant is compared with NULL. -/
theorem comparesInstant_of_isNull (h : c.value.isNull = true) : c.comparesInstant = false := by
  cases hv : c.value <;> simp_all [comparesInstant, Value.isNull, Value.isTemporal, Value.kind]

/-- Only a test for membership may ask for nothing. -/
theorem not_asksForNothing_of_op (hin : c.op ≠ .isIn) (hnotIn : c.op ≠ .notIn) :
    ¬ c.AsksForNothing := fun h => h.1.elim hin hnotIn

/-- A test for NULL begins with the column. -/
theorem begins_test {ending : String}
    (hc : c.op = .isNull ∨ c.op = .isNotNull ∨ c.value.isNull = true) (d : Dialect) (m : Mode) :
    c.Begins d m (m.text d [.text (c.trimmedColumn ++ ending)]) := by
  apply begins_column
  · rintro ⟨hop, hv⟩
    rcases hc with hc | hc | hc
    · rcases hop with hop | hop <;> simp [hc] at hop
    · rcases hop with hop | hop <;> simp [hc] at hop
    · rw [hv] at hc
      cases hc
  · rcases hc with hc | hc | hc
    · exact comparesInstant_of_op (by rw [hc]; rfl)
    · exact comparesInstant_of_op (by rw [hc]; rfl)
    · exact comparesInstant_of_isNull hc

/-- A raw condition begins with the column. -/
theorem begins_raw (hc : c.op.isRaw = true) (d : Dialect) (m : Mode) :
    c.Begins d m (m.text d (rawFragment c.trimmedColumn c.op c.value)) := by
  have hne : ∀ op : Operator, op.isRaw = false → c.op ≠ op := by
    rintro op hop rfl
    rw [hc] at hop
    cases hop
  have ha : ¬ c.AsksForNothing := not_asksForNothing_of_op (hne _ rfl) (hne _ rfl)
  have hi : c.comparesInstant = false := by
    apply comparesInstant_of_op
    cases ho : c.op <;> simp_all [Operator.isRaw, Operator.isComparison]
  unfold rawFragment
  split
  · exact begins_symbol ha hi d m _ _
  · exact begins_symbol ha hi d m _ _

/-- A range begins with the column. -/
theorem begins_range {f : Fragment} (hc : c.op = .between)
    (hf : rangeFragment c.trimmedColumn c.value = .ok f) (d : Dialect) (m : Mode) :
    c.Begins d m (m.text d f) := by
  have ha : ¬ c.AsksForNothing := not_asksForNothing_of_op (by simp [hc]) (by simp [hc])
  have hi : c.comparesInstant = false := comparesInstant_of_op (by rw [hc]; rfl)
  unfold rangeFragment at hf
  split at hf
  · split at hf
    · cases hf
    · cases hf
      exact begins_column ha hi d m _ _
  · cases hf
    exact begins_column ha hi d m _ _
  · cases hf

/-- A membership begins with the column, unless there is no list at all. -/
theorem begins_member (hc : c.op = .isIn ∨ c.op = .notIn) (d : Dialect) (m : Mode) :
    c.Begins d m (m.text d (memberFragment c.trimmedColumn c.op c.value)) := by
  have hi : c.comparesInstant = false := by
    apply comparesInstant_of_op
    rcases hc with hc | hc <;> rw [hc] <;> rfl
  by_cases hv : c.value = .list []
  · rw [hv, memberFragment, Mode.text_singleton]
    rcases hc with hc | hc
    · rw [if_pos hc]
      exact .never hc hv
    · rw [if_neg (by simp [hc])]
      exact .always hc hv
  · have ha : ¬ c.AsksForNothing := fun h => hv h.2
    unfold memberFragment
    split
    · rename_i he
      exact absurd he hv
    · exact begins_symbol ha hi d m _ _
    · exact begins_symbol ha hi d m _ _
    · exact begins_symbol ha hi d m _ _

/-- A comparison with a point in time begins with the column, in a form of its own if it is written
with literals. -/
theorem begins_instant (hc : c.comparesInstant = true) (d : Dialect) (m : Mode) :
    c.Begins d m (m.text d [.instant c.trimmedColumn c.op.symbol c.value]) := by
  cases m with
  | literal =>
    simp only [Mode.text, Fragment.literal, Segment.literal, String.append_assoc]
    exact .instant rfl hc _
  | prepared given =>
    have ha : ¬ c.AsksForNothing := by
      rintro ⟨-, hv⟩
      simp [comparesInstant, hv, Value.isTemporal, Value.kind] at hc
    simp only [Mode.text, Fragment.prepared, Segment.prepared, String.append_assoc]
    exact .column ha (fun h => by cases h) _

/-- Whatever shape a condition has, it begins as it should. -/
theorem begins_of_shape {f : Fragment} (h : c.Shape f) (d : Dialect) (m : Mode) :
    c.Begins d m (m.text d f) := by
  cases h with
  | test ending hend hc => exact begins_test hc d m
  | raw hn hc => exact begins_raw hc d m
  | range hn hc hf => exact begins_range hc hf d m
  | member hn hc => exact begins_member hc d m
  | instant hn hc => exact begins_instant hc d m
  | bound hn hc hi hl =>
    apply begins_symbol _ hi
    apply not_asksForNothing_of_op
    · intro ho
      simp [ho, Operator.isComparison] at hc
    · intro ho
      simp [ho, Operator.isComparison] at hc

/-- What is written with a column is not empty. -/
theorem Begins.ne_empty {d : Dialect} {m : Mode} {s : String} (h : c.Begins d m s)
    (hc : c.trimmedColumn ≠ "") : s ≠ "" := by
  cases h with
  | never hop hv => decide
  | always hop hv => decide
  | instant hm hc rest => cases d <;> simp [Dialect.temporalColumn]
  | column ha hm rest =>
    intro h
    exact hc (String.append_eq_empty_iff.mp h).1

/-- A condition is refused for the four reasons and for no other, with literals and with
placeholders alike. Every refusal is an invalid condition and leaves the parameters as they are.
Every text that is written begins with the column, apart from the two fixed answers about no list
and from points in time written as literals. -/
theorem accepted_exactly (c : Condition) (d : Dialect) :
    (∀ m, (∃ e, c.write d m = .error e) ↔ c.Unacceptable) ∧
    (∀ m e, c.write d m = .error e →
      ∃ fault : ConditionFault, e = .invalidCondition c.trimmedColumn fault.reason) ∧
    (∀ p e, (c.prepareAfter d p).1 = .error e → (c.prepareAfter d p).2 = p) ∧
    ∀ m s, c.write d m = .ok s → s ≠ "" ∧ c.Begins d m s := by
  cases hr : c.render with
  | error fault =>
    have hwrite := write_of_error hr d
    refine ⟨?_, ?_, ?_, ?_⟩
    · intro m
      exact ⟨fun _ => unacceptable_of_render hr, fun _ => ⟨_, hwrite m⟩⟩
    · intro m e he
      rw [hwrite m] at he
      cases he
      exact ⟨fault, rfl⟩
    · intro p e _
      exact congrArg Prod.snd (prepareAfter_of_error hr d p)
    · intro m s hs
      rw [hwrite m] at hs
      cases hs
  | ok f =>
    have hwrite := write_of_ok hr d
    have hfails : ∀ m e, c.write d m ≠ .error e := by
      intro m e he
      rw [hwrite m] at he
      cases he
    refine ⟨?_, ?_, ?_, ?_⟩
    · intro m
      constructor
      · rintro ⟨e, he⟩
        exact absurd he (hfails m e)
      · intro hu
        obtain ⟨fault, hfault⟩ := hu.exists_fault
        rw [hr] at hfault
        cases hfault
    · intro m e he
      exact absurd he (hfails m e)
    · intro p e he
      exact absurd he (hfails (.prepared p) e)
    · intro m s hs
      rw [hwrite m] at hs
      cases hs
      have hcolumn : c.trimmedColumn ≠ "" := by
        intro hc
        rw [render_of_isEmpty (String.isEmpty_iff.mpr hc)] at hr
        cases hr
      have hbegins := begins_of_shape (shape_of_render hr) d m
      exact ⟨hbegins.ne_empty hcolumn, hbegins⟩

/-- A range with three bounds. -/
def threeBounds : Condition := { column := " day ", op := .between, value := .text "1, 2,3" }

/-- The range with three bounds is refused with literals, and prepared after a parameter it leaves
that one alone. -/
theorem threeBounds_refused :
    threeBounds.WeighsValue ∧ threeBounds.op = .between ∧ ¬ FitsRange threeBounds.value ∧
    (∃ e, threeBounds.write .mysql .literal = .error e) ∧
    (threeBounds.prepareAfter .postgres ⟨[.null]⟩).2 = ⟨[.null]⟩ := by
  have hw : threeBounds.WeighsValue := ⟨⟨by decide, by decide⟩, rfl, rfl⟩
  have hbounds : bounds threeBounds.value = [.text "1", .text "2", .text "3"] := rfl
  have hrange : ¬ FitsRange threeBounds.value := by
    rintro (⟨low, high, h⟩ | ⟨low, h, -⟩)
    · rw [hbounds] at h
      simp at h
    · rw [hbounds] at h
      simp at h
  have hrefused := (accepted_exactly threeBounds .mysql).1 .literal
  have hkept := (accepted_exactly threeBounds .postgres).2.2.1 ⟨[.null]⟩
  exact ⟨hw, rfl, hrange, hrefused.mpr (.bounds hw rfl hrange), hkept _ rfl⟩

end Condition

end SqlAccess
