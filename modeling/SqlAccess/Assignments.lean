import SqlAccess.Value

/-!
# Assignments

Columns with what is assigned to them, in the order of their first assignment. Assigning a column
again replaces what it holds and leaves it in its place, so no column stands twice.
-/

namespace SqlAccess

/-- Columns and what is assigned to each, in order. -/
structure Assignments (α : Type) where
  entries : List (String × α)
  deriving Inhabited

namespace Assignments

variable {α : Type}

/-- No assignments. -/
def empty : Assignments α := ⟨[]⟩

/-- Assigns a column among entries. -/
def put (column : String) (a : α) : List (String × α) → List (String × α)
  | [] => [(column, a)]
  | (c, b) :: rest => if c = column then (c, a) :: rest else (c, b) :: put column a rest

/-- Assigns a column. -/
def set (s : Assignments α) (column : String) (a : α) : Assignments α := ⟨put column a s.entries⟩

/-- Assigns several columns, one after another. -/
def setAll (s : Assignments α) (pairs : List (String × α)) : Assignments α :=
  pairs.foldl (fun s p => s.set p.1 p.2) s

/-- The assignments of a list of pairs. -/
def ofList (pairs : List (String × α)) : Assignments α := empty.setAll pairs

/-- What is assigned to a column. -/
def get? (s : Assignments α) (column : String) : Option α :=
  (s.entries.find? fun e => e.1 = column).map (·.2)

/-- The assigned columns in order. -/
def columns (s : Assignments α) : List String := s.entries.map (·.1)

/-- What is assigned, in the order of the columns. -/
def values (s : Assignments α) : List α := s.entries.map (·.2)

/-- The number of assigned columns. -/
def size (s : Assignments α) : Nat := s.entries.length

/-- Whether nothing is assigned. -/
def isEmpty (s : Assignments α) : Bool := s.entries.isEmpty

end Assignments

end SqlAccess
