import SqlAccess.Condition

/-!
# Filters

A filter is an ordered list of conditions, raw texts and nested filters. Every entry but the first
is preceded by its connective, and a nested filter stands in parentheses. A filter without
entries is never nested, so no empty parentheses are written.
-/

namespace SqlAccess

/-- An entry of a filter. -/
inductive FilterEntry
  | condition (c : Condition)
  | nested (connective : Connective) (entries : List FilterEntry)
  | raw (connective : Connective) (sql : String)
  deriving Inhabited

/-- Conditions joined by connectives. -/
structure Filter where
  entries : List FilterEntry
  deriving Inhabited

namespace FilterEntry

/-- How an entry is joined to the one before it. -/
def connective : FilterEntry → Connective
  | .condition c => c.connective
  | .nested connective _ => connective
  | .raw connective _ => connective

mutual

/-- The rendering of one entry without its connective. -/
def rendering : FilterEntry → Rendering
  | .condition c => c.rendering
  | .nested _ entries => Rendering.text "(" ++ entriesRendering entries ++ Rendering.text ")"
  | .raw _ sql => Rendering.text sql

/-- The rendering of entries from the first on. -/
def entriesRendering : List FilterEntry → Rendering
  | [] => .ok []
  | e :: rest => rendering e ++ followersRendering rest

/-- The rendering of the entries after the first, each led by its connective. -/
def followersRendering : List FilterEntry → Rendering
  | [] => .ok []
  | e :: rest =>
    Rendering.text e.connective.token ++ rendering e ++ followersRendering rest

end

end FilterEntry

namespace Filter

/-- The filter without entries. -/
def empty : Filter := ⟨[]⟩

/-- Whether a filter has no entries. -/
def isEmpty (f : Filter) : Bool := f.entries.isEmpty

/-- The number of entries. -/
def size (f : Filter) : Nat := f.entries.length

/-- Adds a condition. -/
def add (f : Filter) (c : Condition) : Filter := ⟨f.entries ++ [.condition c]⟩

/-- Adds a filter in parentheses, unless it has no entries. -/
def addNested (f : Filter) (connective : Connective) (g : Filter) : Filter :=
  if g.isEmpty then f else ⟨f.entries ++ [.nested connective g.entries]⟩

/-- Adds a text as it is. -/
def addRaw (f : Filter) (connective : Connective) (sql : String) : Filter :=
  ⟨f.entries ++ [.raw connective sql]⟩

/-- Adds a condition that is joined with AND. -/
def and (f : Filter) (column : String) (op : Operator) (value : Value) : Filter :=
  f.add { column, op, value }

/-- Adds a condition that is joined with OR. -/
def or (f : Filter) (column : String) (op : Operator) (value : Value) : Filter :=
  f.add (Condition.or { column, op, value })

/-- The rendering of all entries. -/
def rendering (f : Filter) : Rendering := FilterEntry.entriesRendering f.entries

/-- The filter with its values as literals. -/
def literal (d : Dialect) (f : Filter) : Except DbError String :=
  f.rendering.result.map (Fragment.literal d)

/-- The filter with placeholders, after parameters that are there already. -/
def prepareAfter (d : Dialect) (p : Parameters) (f : Filter) : Except DbError String × Parameters :=
  f.rendering.prepareAfter d p

end Filter

end SqlAccess
