import SqlAccess.Statement.Basic

/-!
# Queries

A query reads a window of ordered rows; its count reads how many rows there are without order and
window. Both have the same body: the source, the joins, the filter, the groups and the filter
on groups. Where groups or distinct rows are counted, the query stands inside the count.
-/

namespace SqlAccess

/-- A query under construction. -/
structure Select where
  source : String
  columns : List String := ["*"]
  isDistinct : Bool := false
  joins : List String := []
  filter : Filter := .empty
  order : List String := []
  groups : List String := []
  groupFilter : Filter := .empty
  window : Window := {}
  dialect : Dialect := .mysql
  deriving Inhabited

/-- A call that changes a query. -/
inductive SelectCall
  | dialect (d : Dialect)
  | select (columns : String)
  | selectAll (columns : List String)
  /-- Adds a column; the first one added takes the place of a lone star. -/
  | addSelect (column : String)
  | distinct
  | innerJoin (table on : String)
  | leftJoin (table on : String)
  | rightJoin (table on : String)
  | orderBy (clause : String)
  | orderByAsc (column : String)
  | orderByDesc (column : String)
  /-- Forgets the order and starts again with one column. -/
  | restartOrder (column : String) (descending : Bool)
  | groupBy (column : String)
  | having (expression : String) (op : Operator) (value : Value)
  | havingRaw (sql : String)
  | limit (n : UInt64)
  | offset (n : UInt64)
  /-- The window of a page; pages count from one. -/
  | page (current size : UInt64)
  /-- Forgets everything but the source and the dialect. -/
  | reset
  | filter (c : FilterCall)

/-- The window of a page: an offset beyond the largest word stays at the largest word. -/
def Window.ofPage (current size : UInt64) : Window :=
  let current := max current 1
  let size := max size 1
  { limit := some size
    offset := some (.ofNat (min ((current.toNat - 1) * size.toNat) (UInt64.size - 1))) }

namespace Select

/-- The query for all columns of a source. -/
def ofSource (source : String) : Select := { source }

/-- One column of an order. -/
def orderClause (column : String) (descending : Bool) : String :=
  column ++ (if descending then " DESC" else " ASC")

/-- The query after a call. -/
def call (q : Select) : SelectCall → Select
  | .dialect d => { q with dialect := d }
  | .select columns => { q with columns := [columns] }
  | .selectAll columns => { q with columns }
  | .addSelect column =>
    { q with columns := if q.columns = ["*"] then [column] else q.columns ++ [column] }
  | .distinct => { q with isDistinct := true }
  | .innerJoin table on => { q with joins := q.joins ++ ["INNER JOIN " ++ table ++ " ON " ++ on] }
  | .leftJoin table on =>
    { q with joins := q.joins ++ ["LEFT OUTER JOIN " ++ table ++ " ON " ++ on] }
  | .rightJoin table on =>
    { q with joins := q.joins ++ ["RIGHT OUTER JOIN " ++ table ++ " ON " ++ on] }
  | .orderBy clause => { q with order := q.order ++ [clause] }
  | .orderByAsc column => { q with order := q.order ++ [orderClause column false] }
  | .orderByDesc column => { q with order := q.order ++ [orderClause column true] }
  | .restartOrder column descending => { q with order := [orderClause column descending] }
  | .groupBy column => { q with groups := q.groups ++ [column] }
  | .having expression op value =>
    { q with groupFilter := q.groupFilter.and expression op value }
  | .havingRaw sql => { q with groupFilter := q.groupFilter.addRaw .and sql }
  | .limit n => { q with window := { q.window with limit := some n } }
  | .offset n => { q with window := { q.window with offset := some n } }
  | .page current size => { q with window := .ofPage current size }
  | .reset =>
    { q with
      columns := ["*"], isDistinct := false, joins := [], filter := .empty, order := []
      groups := [], groupFilter := .empty, window := {} }
  | .filter c => { q with filter := q.filter.call c }

/-- The query after several calls. -/
def calls (q : Select) (cs : List SelectCall) : Select := cs.foldl call q

/-- Whether a query has a filter. -/
def hasFilter (q : Select) : Bool := !q.filter.isEmpty

/-- A filter after its keyword, or nothing. -/
def clause (keyword : String) (f : Filter) : Rendering :=
  if f.isEmpty then .ok [] else Rendering.text keyword ++ f.rendering

/-- The list of selected columns. -/
def columnList (q : Select) : String :=
  (if q.isDistinct then "DISTINCT " else "") ++ Text.joinWith ", " q.columns

/-- The source with its joins. -/
def sourceText (q : Select) : String :=
  " FROM " ++ q.source ++ String.join (q.joins.map fun j => " " ++ j)

/-- The groups of a query. -/
def groupText (q : Select) : String :=
  if q.groups.isEmpty then "" else " GROUP BY " ++ Text.joinWith ", " q.groups

/-- The order of a query. -/
def orderText (q : Select) : String :=
  if q.order.isEmpty then "" else " ORDER BY " ++ Text.joinWith ", " q.order

/-- What a query and its count have in common. -/
def body (q : Select) : Except DbError Fragment :=
  (Rendering.text q.sourceText ++ clause " WHERE " q.filter ++ Rendering.text q.groupText ++
    clause " HAVING " q.groupFilter).result

/-- The segments of a query. -/
def fragment (q : Select) : Except DbError Fragment :=
  q.body.map fun b =>
    .text ("SELECT " ++ q.columnList) :: b ++ [.text q.orderText, .window q.window]

/-- Whether the count has to be taken over the query itself. -/
def countsDerived (q : Select) : Bool :=
  !q.groups.isEmpty || !q.groupFilter.isEmpty || q.isDistinct

/-- The segments of the count of a query. -/
def countFragment (q : Select) : Except DbError Fragment :=
  q.body.map fun b =>
    if q.countsDerived then
      .text ("SELECT COUNT(*) FROM (SELECT " ++ q.columnList) :: b ++ [.text ") AS t"]
    else .text "SELECT COUNT(*)" :: b

instance : Statement Select := ⟨Select.dialect, fragment⟩

/-- The count of a query with literals. -/
def countLiteralFor (d : Dialect) (q : Select) : Except DbError String :=
  q.countFragment.map (Fragment.literal d)

/-- The count of a query with literals in its own dialect. -/
def countLiteral (q : Select) : Except DbError String := q.countLiteralFor q.dialect

/-- The count of a query with placeholders. -/
def countPrepareFor (d : Dialect) (q : Select) : Except DbError Prepared :=
  q.countFragment.map (Fragment.prepare d)

end Select

end SqlAccess
