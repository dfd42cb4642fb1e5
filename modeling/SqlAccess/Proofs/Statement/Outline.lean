import SqlAccess.Statement.Any

/-!
# What a statement is made of

Beside the fragment that is written stands an outline of the statement, read off the
calls that built it: the texts that are written as they are, the values that are bound and
their order, and the conditions at any depth of its filters. The outline is defined without the
renderer, so that statements about what is written can be compared with it. `Form` names every
text that one statement can be sent as, the count of a query among them.
-/

namespace SqlAccess

/-- Whether an operator compares a column with one value. -/
def Operator.isComparison : Operator → Bool
  | .eq | .ne | .gt | .ge | .lt | .le => true
  | _ => false

namespace Condition

/-- The texts of a condition that are written as they are: the column, the value of a raw operator
and a list that is already joined. -/
def fixedTexts (c : Condition) : List String :=
  if c.op.isRaw then [c.column, c.value.raw]
  else
    match c.op, c.value with
    | .isIn, .text joined | .notIn, .text joined => [c.column, joined]
    | _, _ => [c.column]

/-- The values that a condition binds, in order: every item of a list, the trimmed pieces of
a textual range, nothing for a test of NULL or a text that is written as it is, and else the
value itself. -/
def bindings (c : Condition) : List Value :=
  if c.value.isNull || c.op.isRaw then []
  else
    match c.op, c.value with
    | .isNull, _ | .isNotNull, _ | .isIn, .text _ | .notIn, .text _ => []
    | .isIn, .list items | .notIn, .list items | .between, .list items => items
    | .between, v => (Text.trimmedPieces v.raw).map .text
    | _, v => [v]

/-- Whether a condition compares a column with a point in time. -/
def comparesInstant (c : Condition) : Bool := c.op.isComparison && c.value.isTemporal

/-- The point in time that a condition compares, if it does. -/
def instants (c : Condition) : List Value := if c.comparesInstant then [c.value] else []

variable {c : Condition}

/-- A test for NULL binds nothing. -/
theorem bindings_of_test (h : c.op = .isNull ∨ c.op = .isNotNull ∨ c.value.isNull = true) :
    c.bindings = [] := by
  rcases h with h | h | h <;> simp [bindings, h]

/-- A raw operator binds nothing. -/
theorem bindings_of_isRaw (h : c.op.isRaw = true) : c.bindings = [] := by
  simp [bindings, h]

/-- A range binds its bounds. -/
theorem bindings_of_between (hn : c.value.isNull = false) (h : c.op = .between) :
    c.bindings = bounds c.value := by
  cases hv : c.value <;> simp_all [bindings, bounds, Operator.isRaw, Value.isNull]

/-- A membership binds every item of a list, nothing of a joined list, and else its value. -/
theorem bindings_of_member (hn : c.value.isNull = false) (h : c.op = .isIn ∨ c.op = .notIn) :
    c.bindings =
      match c.value with
      | .list items => items
      | .text _ => []
      | v => [v] := by
  rcases h with h | h <;> cases hv : c.value <;> simp_all [bindings, Operator.isRaw, Value.isNull]

/-- A comparison or a pattern binds its value. -/
theorem bindings_of_single (hn : c.value.isNull = false)
    (h : c.op.isComparison = true ∨ c.op = .like ∨ c.op = .notLike) : c.bindings = [c.value] := by
  cases ho : c.op <;> simp_all [bindings, Operator.isRaw, Operator.isComparison]

end Condition

/-- A part of a filter that holds no other part. -/
inductive FilterLeaf
  | condition (c : Condition)
  | raw (sql : String)

namespace FilterLeaf

/-- The texts of a leaf that are written as they are. -/
def fixedTexts : FilterLeaf → List String
  | .condition c => c.fixedTexts
  | .raw sql => [sql]

/-- The values that a leaf binds. -/
def bindings : FilterLeaf → List Value
  | .condition c => c.bindings
  | .raw _ => []

/-- The points in time that a leaf compares. -/
def instants : FilterLeaf → List Value
  | .condition c => c.instants
  | .raw _ => []

/-- The condition of a leaf, if it is one. -/
def condition? : FilterLeaf → Option Condition
  | .condition c => some c
  | .raw _ => none

end FilterLeaf

namespace FilterEntry

mutual

/-- The leaves of an entry, depth first and from left to right. -/
def leaves : FilterEntry → List FilterLeaf
  | .condition c => [.condition c]
  | .nested _ entries => entriesLeaves entries
  | .raw _ sql => [.raw sql]

/-- The leaves of several entries, one entry after another. -/
def entriesLeaves : List FilterEntry → List FilterLeaf
  | [] => []
  | e :: rest => leaves e ++ entriesLeaves rest

end

end FilterEntry

namespace Filter

/-- The leaves of a filter, depth first and from left to right. -/
def leaves (f : Filter) : List FilterLeaf := FilterEntry.entriesLeaves f.entries

/-- The texts that a filter writes as they are. -/
def fixedTexts (f : Filter) : List String := f.leaves.flatMap FilterLeaf.fixedTexts

/-- The values that a filter binds, depth first and from left to right. -/
def bindings (f : Filter) : List Value := f.leaves.flatMap FilterLeaf.bindings

/-- The points in time that a filter compares. -/
def instants (f : Filter) : List Value := f.leaves.flatMap FilterLeaf.instants

/-- The conditions of a filter at any depth. -/
def conditions (f : Filter) : List Condition := f.leaves.filterMap FilterLeaf.condition?

end Filter

namespace Select

/-- The texts that a query or its count writes as they are. -/
def fixedTexts (q : Select) : List String :=
  q.source :: q.columns ++ q.joins ++ q.filter.fixedTexts ++ q.groups ++
    q.groupFilter.fixedTexts ++ q.order

/-- The values that a query binds: those of the filter, then those of the filter on groups. -/
def bindings (q : Select) : List Value := q.filter.bindings ++ q.groupFilter.bindings

/-- The conditions of a query at any depth. -/
def conditions (q : Select) : List Condition := q.filter.conditions ++ q.groupFilter.conditions

end Select

namespace Insert

/-- The texts that an insert writes as they are. -/
def fixedTexts (q : Insert) : List String := q.table :: q.values.columns

/-- The values that an insert binds, in the order of its columns. -/
def bindings (q : Insert) : List Value := q.values.values

end Insert

namespace Assigned

/-- The texts of an assignment that are written as they are. -/
def fixedTexts : Assigned → List String
  | .expression sql => [sql]
  | _ => []

/-- The value that an assignment binds, if there is one. -/
def bindings : Assigned → List Value
  | .value v => [v]
  | .expression _ => []
  | .increment v => [v]

end Assigned

namespace Update

/-- The texts that an update writes as they are. -/
def fixedTexts (q : Update) : List String :=
  q.table :: (q.assignments.entries.flatMap fun e => e.1 :: e.2.fixedTexts) ++ q.filter.fixedTexts

/-- The values that an update binds: those it assigns, in the order of the columns, then those of
the filter. -/
def bindings (q : Update) : List Value :=
  q.assignments.values.flatMap Assigned.bindings ++ q.filter.bindings

end Update

/-- The texts that a delete writes as they are. -/
def Delete.fixedTexts (q : Delete) : List String := q.table :: q.filter.fixedTexts

/-- Everything that is sent for a statement: the statement itself, or the count of a query. -/
inductive Form
  | select (q : Select)
  | count (q : Select)
  | insert (q : Insert)
  | update (q : Update)
  | delete (q : Delete)

namespace Form

/-- The text with literals. -/
def literalFor (d : Dialect) : Form → Except DbError String
  | .select q => Statement.literalFor d q
  | .count q => q.countLiteralFor d
  | .insert q => Statement.literalFor d q
  | .update q => Statement.literalFor d q
  | .delete q => Statement.literalFor d q

/-- The text with placeholders and its parameters. -/
def prepareFor (d : Dialect) : Form → Except DbError Prepared
  | .select q => Statement.prepareFor d q
  | .count q => q.countPrepareFor d
  | .insert q => Statement.prepareFor d q
  | .update q => Statement.prepareFor d q
  | .delete q => Statement.prepareFor d q

/-- The texts that are written as they are. -/
def fixedTexts : Form → List String
  | .select q => q.fixedTexts
  | .count q => q.fixedTexts
  | .insert q => q.fixedTexts
  | .update q => q.fixedTexts
  | .delete q => q.fixedTexts

/-- The values that are bound, in order. -/
def bindings : Form → List Value
  | .select q => q.bindings
  | .count q => q.bindings
  | .insert q => q.bindings
  | .update q => q.bindings
  | .delete q => q.filter.bindings

/-- The conditions at any depth. -/
def conditions : Form → List Condition
  | .select q => q.conditions
  | .count q => q.conditions
  | .insert _ => []
  | .update q => q.filter.conditions
  | .delete q => q.filter.conditions

/-- The segments that both texts are written from, or why there is none. -/
def fragment : Form → Except DbError Fragment
  | .select q => q.fragment
  | .count q => q.countFragment
  | .insert q => q.fragment
  | .update q => q.fragment
  | .delete q => q.fragment

/-- The text with literals is written from the fragment. -/
theorem literalFor_eq (d : Dialect) (s : Form) :
    s.literalFor d = s.fragment.map (Fragment.literal d) := by
  cases s <;> rfl

/-- The text with placeholders is written from the same fragment. -/
theorem prepareFor_eq (d : Dialect) (s : Form) :
    s.prepareFor d = s.fragment.map (Fragment.prepare d) := by
  cases s <;> rfl

end Form

end SqlAccess
