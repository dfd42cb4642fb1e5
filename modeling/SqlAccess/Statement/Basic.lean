import SqlAccess.Filter

/-!
# Statements

Every statement has a dialect of its own and a fragment, or a reason to be refused. All ways of
writing it come from that fragment: with literals or prepared, in a given dialect or in its own.
-/

namespace SqlAccess

/-- The statements that can be written in every dialect. -/
class Statement (α : Type) where
  /-- The dialect a statement is written in when none is given. -/
  dialect : α → Dialect
  /-- The segments of a statement, or why it is refused. -/
  fragment : α → Except DbError Fragment

namespace Statement

variable {α : Type} [Statement α]

/-- A statement with its values as literals. -/
def literalFor (d : Dialect) (s : α) : Except DbError String :=
  (fragment s).map (Fragment.literal d)

/-- A statement with placeholders and its parameters. -/
def prepareFor (d : Dialect) (s : α) : Except DbError Prepared :=
  (fragment s).map (Fragment.prepare d)

/-- A statement with literals in its own dialect. -/
def literal (s : α) : Except DbError String := literalFor (dialect s) s

/-- A statement with placeholders in its own dialect. -/
def prepare (s : α) : Except DbError Prepared := prepareFor (dialect s) s

end Statement

/-- A call that changes the filter of a statement. -/
inductive FilterCall
  | and (column : String) (op : Operator) (value : Value)
  | or (column : String) (op : Operator) (value : Value)
  | condition (c : Condition)
  /-- Forgets all entries and starts again with one condition. -/
  | restart (column : String) (op : Operator) (value : Value)
  | nested (connective : Connective) (f : Filter)
  | raw (sql : String)
  | eq (column : String) (value : Value)
  | ne (column : String) (value : Value)
  | gt (column : String) (value : Value)
  | ge (column : String) (value : Value)
  | lt (column : String) (value : Value)
  | le (column : String) (value : Value)
  | like (column : String) (pattern : Value)
  | notLike (column : String) (pattern : Value)
  | isIn (column : String) (values : List Value)
  | notIn (column : String) (values : List Value)
  | between (column : String) (low high : Value)
  | isNull (column : String)
  | isNotNull (column : String)

/-- The filter after a call. -/
def Filter.call (f : Filter) : FilterCall → Filter
  | .and column op value => f.and column op value
  | .or column op value => f.or column op value
  | .condition c => f.add c
  | .restart column op value => Filter.empty.and column op value
  | .nested connective g => f.addNested connective g
  | .raw sql => f.addRaw .and sql
  | .eq column value => f.and column .eq value
  | .ne column value => f.and column .ne value
  | .gt column value => f.and column .gt value
  | .ge column value => f.and column .ge value
  | .lt column value => f.and column .lt value
  | .le column value => f.and column .le value
  | .like column pattern => f.and column .like pattern
  | .notLike column pattern => f.and column .notLike pattern
  | .isIn column values => f.and column .isIn (.list values)
  | .notIn column values => f.and column .notIn (.list values)
  | .between column low high => f.and column .between (.list [low, high])
  | .isNull column => f.and column .isNull .null
  | .isNotNull column => f.and column .isNotNull .null

end SqlAccess
