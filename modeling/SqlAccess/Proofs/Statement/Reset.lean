import SqlAccess.Proofs.Statement.Edits
import SqlAccess.Statement.Insert
import SqlAccess.Statement.Select

/-!
# What a reset leaves

A builder is kept and used again after a reset. `Builder` says of single calls that none of them
changes the table, that some of them put a dialect in force, and that a reset leaves what a new
builder would have. A run is then cut at its reset: of the calls before it only the dialect that was
last put in force reaches the calls behind it.
-/

namespace SqlAccess

/-- A kind of statement that is built call by call and can be reset. -/
structure Builder (σ γ : Type) where
  /-- The statement for a table in a dialect, before any other call. -/
  start : String → Dialect → σ
  call : σ → γ → σ
  reset : γ
  table : σ → String
  dialect : σ → Dialect
  /-- The dialect that a call puts in force. -/
  named? : γ → Option Dialect
  table_call : ∀ q c, table (call q c) = table q
  dialect_call : ∀ q c, dialect (call q c) = (named? c).getD (dialect q)
  call_reset : ∀ q, call q reset = start (table q) (dialect q)

namespace Builder

variable {σ γ : Type} (b : Builder σ γ)

/-- The dialect in force after calls: the last one that a call named. -/
def inForce (q : σ) (cs : List γ) : Dialect := (cs.filterMap b.named?).getLastD (b.dialect q)

/-- No call changes the table of a statement. -/
theorem table_foldl (q : σ) (cs : List γ) : b.table (cs.foldl b.call q) = b.table q := by
  induction cs generalizing q with
  | nil => rfl
  | cons c cs ih => rw [List.foldl_cons, ih, b.table_call]

/-- The last call that sets a dialect decides which one is in force. -/
theorem dialect_foldl (q : σ) (cs : List γ) :
    b.dialect (cs.foldl b.call q) = b.inForce q cs := by
  induction cs generalizing q with
  | nil => rfl
  | cons c cs ih =>
    rw [List.foldl_cons, ih, inForce, inForce, b.dialect_call]
    cases hc : b.named? c with
    | none => rw [List.filterMap_cons_none hc, Option.getD_none]
    | some d => rw [List.filterMap_cons_some hc, List.getLastD_cons, Option.getD_some]

/-- A run through a reset ends as the calls behind the reset end on a new statement for the table,
in the dialect that was in force. -/
theorem foldl_reset (q : σ) (before after : List γ) :
    (before ++ b.reset :: after).foldl b.call q =
      after.foldl b.call (b.start (b.table q) (b.inForce q before)) := by
  rw [List.foldl_append, List.foldl_cons, b.call_reset, b.table_foldl, b.dialect_foldl]

end Builder

/-! ## The four builders -/

namespace Select

/-- Queries as a builder. -/
def builder : Builder Select SelectCall where
  start source d := (ofSource source).call (.dialect d)
  call := call
  reset := .reset
  table := source
  dialect := dialect
  named?
    | .dialect d => some d
    | _ => none
  table_call _ c := by cases c <;> rfl
  dialect_call _ c := by cases c <;> rfl
  call_reset _ := rfl

end Select

namespace Insert

/-- Inserts as a builder. -/
def builder : Builder Insert InsertCall where
  start table d := (ofTable table).call (.dialect d)
  call := call
  reset := .reset
  table := table
  dialect := dialect
  named?
    | .dialect d => some d
    | _ => none
  table_call _
    | .setOption _ (some _) => rfl
    | .setOption _ none => rfl
    | .dialect _ | .set .. | .setAll _ | .restart _ | .reset => rfl
  dialect_call _
    | .setOption _ (some _) => rfl
    | .setOption _ none => rfl
    | .dialect _ | .set .. | .setAll _ | .restart _ | .reset => rfl
  call_reset _ := rfl

end Insert

namespace Update

/-- Updates as a builder. -/
def builder : Builder Update UpdateCall where
  start table d := (ofTable table).call (.dialect d)
  call := call
  reset := .reset
  table := table
  dialect := dialect
  named?
    | .dialect d => some d
    | _ => none
  table_call q c := table_calls q [c]
  dialect_call _ c := by
    cases c with
    | setOption column value => cases value <;> rfl
    | _ => rfl
  call_reset _ := rfl

end Update

namespace Delete

/-- Deletes as a builder. -/
def builder : Builder Delete DeleteCall where
  start table d := (ofTable table).call (.dialect d)
  call := call
  reset := .reset
  table := table
  dialect := dialect
  named?
    | .dialect d => some d
    | _ => none
  table_call q c := table_calls q [c]
  dialect_call _ c := by cases c <;> rfl
  call_reset _ := rfl

end Delete

/-! ## Nothing written tells them apart -/

/-- Two statements are written alike: with literals and with placeholders, in every dialect and in
their own, refusals included. -/
structure Statement.WrittenAlike {α : Type} [Statement α] (s t : α) : Prop where
  literalFor : ∀ d, literalFor d s = literalFor d t
  prepareFor : ∀ d, prepareFor d s = prepareFor d t
  literal : literal s = literal t
  prepare : prepare s = prepare t

/-- The counts of two queries are written alike. -/
structure Select.CountedAlike (q r : Select) : Prop where
  literalFor : ∀ d, q.countLiteralFor d = r.countLiteralFor d
  prepareFor : ∀ d, q.countPrepareFor d = r.countPrepareFor d
  literal : q.countLiteral = r.countLiteral

/-- A statement is written like itself. -/
theorem Statement.WrittenAlike.refl {α : Type} [Statement α] (s : α) : WrittenAlike s s :=
  ⟨fun _ => rfl, fun _ => rfl, rfl, rfl⟩

/-- A query is counted like itself. -/
theorem Select.CountedAlike.refl (q : Select) : CountedAlike q q :=
  ⟨fun _ => rfl, fun _ => rfl, rfl⟩

open Statement in
/-- A reset forgets everything but the table and the dialect. Whatever was called before it, and
whatever is called behind it, the statement is written in every way as one that was started for the
same table, was given the dialect in force at the reset, and then got the calls behind the reset. A
query is also counted so. -/
theorem reset_forgets_calls :
    (∀ (q : Select) (before after : List SelectCall),
      let anew := (Select.ofSource q.source).call (.dialect (Select.builder.inForce q before))
      WrittenAlike (q.calls (before ++ .reset :: after)) (anew.calls after) ∧
        Select.CountedAlike (q.calls (before ++ .reset :: after)) (anew.calls after)) ∧
    (∀ (q : Insert) (before after : List InsertCall),
      let anew := (Insert.ofTable q.table).call (.dialect (Insert.builder.inForce q before))
      WrittenAlike (q.calls (before ++ .reset :: after)) (anew.calls after)) ∧
    (∀ (q : Update) (before after : List UpdateCall),
      let anew := (Update.ofTable q.table).call (.dialect (Update.builder.inForce q before))
      WrittenAlike (q.calls (before ++ .reset :: after)) (anew.calls after)) ∧
    ∀ (q : Delete) (before after : List DeleteCall),
      let anew := (Delete.ofTable q.table).call (.dialect (Delete.builder.inForce q before))
      WrittenAlike (q.calls (before ++ .reset :: after)) (anew.calls after) := by
  refine ⟨fun q before after => ?_, fun q before after => ?_, fun q before after => ?_,
    fun q before after => ?_⟩
  · have h : q.calls (before ++ .reset :: after) = _ := Select.builder.foldl_reset q before after
    rw [h]
    exact ⟨.refl _, .refl _⟩
  · have h : q.calls (before ++ .reset :: after) = _ := Insert.builder.foldl_reset q before after
    rw [h]
    exact .refl _
  · have h : q.calls (before ++ .reset :: after) = _ := Update.builder.foldl_reset q before after
    rw [h]
    exact .refl _
  · have h : q.calls (before ++ .reset :: after) = _ := Delete.builder.foldl_reset q before after
    rw [h]
    exact .refl _

/-- A grouped query for the second page is reset and reads the first rows of its table again. -/
example :
    Statement.literal ((Select.ofSource "t").calls
      [.dialect .postgres, .distinct, .groupBy "g", .havingRaw "n > 1", .page 2 10, .reset,
        .limit 1]) = .ok "SELECT * FROM t LIMIT 1" := by
  decide +kernel

end SqlAccess
