import SqlAccess.Parameters

/-!
# Conditions

A condition compares a column with a value under an operator, and the operator alone decides how
the value is used. Comparisons bind it; patterns and ranges take text only, or a list of bounds;
memberships take a list or a text that is already joined; raw operators put the value into
the statement as it is. What a condition does not accept is a `ConditionFault`.
-/

namespace SqlAccess

/-- The operators of conditions. -/
inductive Operator
  | eq
  | ne
  | gt
  | ge
  | lt
  | le
  | like
  | notLike
  | isIn
  | notIn
  | between
  | isNull
  | isNotNull
  | rawEq
  | rawNe
  | rawGt
  | rawGe
  | rawLt
  | rawIn
  | rawNotIn
  deriving Repr, DecidableEq, Inhabited

namespace Operator

/-- Every operator. -/
def all : List Operator :=
  [.eq, .ne, .gt, .ge, .lt, .le, .like, .notLike, .isIn, .notIn, .between, .isNull, .isNotNull,
    .rawEq, .rawNe, .rawGt, .rawGe, .rawLt, .rawIn, .rawNotIn]

/-- The short name of an operator. -/
def name : Operator → String
  | .eq => "eq"
  | .ne => "ne"
  | .gt => "gt"
  | .ge => "ge"
  | .lt => "lt"
  | .le => "le"
  | .like => "lk"
  | .notLike => "nk"
  | .isIn => "in"
  | .notIn => "ni"
  | .between => "bt"
  | .isNull => "isnull"
  | .isNotNull => "isnotnull"
  | .rawEq => "fneq"
  | .rawNe => "fnne"
  | .rawGt => "fngt"
  | .rawGe => "fnge"
  | .rawLt => "fnlt"
  | .rawIn => "fnin"
  | .rawNotIn => "fnni"

/-- Whether the value is put into the statement as it is. -/
def isRaw : Operator → Bool
  | .rawEq | .rawNe | .rawGt | .rawGe | .rawLt | .rawIn | .rawNotIn => true
  | _ => false

/-- The token between column and value. -/
def symbol : Operator → String
  | .eq | .rawEq => "="
  | .ne | .rawNe => "<>"
  | .gt | .rawGt => ">"
  | .ge | .rawGe => ">="
  | .lt | .rawLt => "<"
  | .le => "<="
  | .like => "LIKE"
  | .notLike => "NOT LIKE"
  | .isIn | .rawIn => "IN"
  | .notIn | .rawNotIn => "NOT IN"
  | .between => "BETWEEN"
  | .isNull => "IS NULL"
  | .isNotNull => "IS NOT NULL"

/-- The operator with a short name; blanks around it and the case of its letters do not matter. -/
def ofName (s : String) : Except DbError Operator :=
  let wanted := Text.asciiLower (Text.trim s)
  match all.find? fun op => op.name == wanted with
  | some op => .ok op
  | none => .error (.validation ("unknown operator '" ++ s ++ "'"))

end Operator

/-- How a condition is joined to the one before it. -/
inductive Connective
  | and
  | or
  deriving Repr, DecidableEq, Inhabited

/-- The word of a connective with the blanks around it. -/
def Connective.token : Connective → String
  | .and => " AND "
  | .or => " OR "

/-- A column, an operator and a value. -/
structure Condition where
  column : String
  op : Operator
  value : Value
  connective : Connective := .and
  deriving Inhabited

/-- Why a condition cannot be written. -/
inductive ConditionFault
  /-- There is no column name. -/
  | emptyColumn
  /-- A pattern or a range got a number or a point in time. -/
  | unsuited (op : Operator) (v : Value)
  /-- A comparison or a pattern got a list. -/
  | list (op : Operator)
  /-- A range got no bound, or more than two. -/
  | bounds (v : Value)

/-- The wording of a fault. -/
def ConditionFault.reason : ConditionFault → String
  | .emptyColumn => "empty column name"
  | .unsuited op v => "operator '" ++ op.name ++ "' does not accept a " ++ v.typeName ++ " value"
  | .list op => "operator '" ++ op.name ++ "' does not accept a list"
  | .bounds v => "BETWEEN expects one or two comma-separated bounds, got '" ++ v.raw ++ "'"

namespace Condition

/-- The condition with the operator of a name. -/
def ofName (column op : String) (value : Value) : Except DbError Condition :=
  (Operator.ofName op).map fun op => { column, op, value }

/-- The condition joined with OR. -/
def or (c : Condition) : Condition := { c with connective := .or }

/-- The column name without blanks around it, as it is written. -/
def trimmedColumn (c : Condition) : String := Text.trim c.column

/-- The bounds of a range: the items of a list, or the trimmed pieces of a text between commas. -/
def bounds (v : Value) : List Value :=
  match v with
  | .list items => items
  | v => (Text.trimmedPieces v.raw).map .text

/-- A range: one bound that is not empty, or two. -/
def rangeFragment (column : String) (v : Value) : Except ConditionFault Fragment :=
  match bounds v with
  | [low] =>
    if low.raw.isEmpty then .error (.bounds v) else .ok [.text (column ++ " >= "), .bound low]
  | [low, high] =>
    .ok [.text (column ++ " BETWEEN "), .bound low, .text " AND ", .bound high]
  | _ => .error (.bounds v)

/-- A membership. No list at all has a fixed answer, and a text is taken as a joined list. -/
def memberFragment (column : String) (op : Operator) (v : Value) : Fragment :=
  let opening := Segment.text (column ++ " " ++ op.symbol ++ " (")
  match v with
  | .list [] => [.text (if op = .isIn then "1=0" else "1=1")]
  | .list items => opening :: Fragment.ofValues "," items ++ [.text ")"]
  | .text joined => [opening, .text joined, .text ")"]
  | v => [opening, .bound v, .text ")"]

/-- A comparison or a pattern with a value that is not a list. -/
def boundFragment (column : String) (op : Operator) (v : Value) : Fragment :=
  [.text (column ++ " " ++ op.symbol ++ " "), .bound v]

/-- A condition whose value stands in the statement as it is. -/
def rawFragment (column : String) (op : Operator) (v : Value) : Fragment :=
  if op = .rawIn ∨ op = .rawNotIn then
    [.text (column ++ " " ++ op.symbol ++ " ("), .text v.raw, .text ")"]
  else [.text (column ++ " " ++ op.symbol ++ " "), .text v.raw]

/-- The test for NULL that an operator becomes when its value is NULL. -/
def nullFragment (column : String) (op : Operator) : Fragment :=
  [.text (column ++ (if op = .eq ∨ op = .rawEq then " IS NULL" else " IS NOT NULL"))]

/-- The segments of a condition, or what is wrong with it. -/
def render (c : Condition) : Except ConditionFault Fragment :=
  let column := c.trimmedColumn
  if column.isEmpty then .error .emptyColumn
  else
    match c.op with
    | .isNull => .ok [.text (column ++ " IS NULL")]
    | .isNotNull => .ok [.text (column ++ " IS NOT NULL")]
    | op =>
      if c.value.isNull then .ok (nullFragment column op)
      else if op.isRaw then .ok (rawFragment column op c.value)
      else
        match op, c.value.kind with
        | .like, .numeric | .like, .temporal | .notLike, .numeric | .notLike, .temporal
        | .between, .numeric | .between, .temporal => .error (.unsuited op c.value)
        | .between, _ => rangeFragment column c.value
        | .isIn, _ | .notIn, _ => .ok (memberFragment column op c.value)
        | _, .list => .error (.list op)
        | .like, _ | .notLike, _ => .ok (boundFragment column op c.value)
        | _, .temporal => .ok [.instant column op.symbol c.value]
        | _, _ => .ok (boundFragment column op c.value)

/-- The rendering of a condition; one that fails has written nothing. -/
def rendering (c : Condition) : Rendering :=
  match c.render with
  | .ok f => .ok f
  | .error fault => .error ⟨[], .invalidCondition c.trimmedColumn fault.reason⟩

/-- The condition with its values as literals. -/
def literal (d : Dialect) (c : Condition) : Except DbError String :=
  c.rendering.result.map (Fragment.literal d)

/-- The condition with placeholders, after parameters that are there already. -/
def prepareAfter (d : Dialect) (p : Parameters) (c : Condition) :
    Except DbError String × Parameters :=
  c.rendering.prepareAfter d p

end Condition

end SqlAccess
