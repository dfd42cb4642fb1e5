import SqlAccess.Fragment

/-!
# Parameters and prepared statements

Parameters are the values of a prepared statement in the order of its placeholders. Pushing a value
answers the position of its placeholder, which counts from one.
-/

namespace SqlAccess

/-- The values bound to the placeholders of a statement, in order. -/
structure Parameters where
  values : List Value
  deriving Inhabited

namespace Parameters

/-- No parameters. -/
def empty : Parameters := ⟨[]⟩

/-- How many parameters there are. -/
def size (p : Parameters) : Nat := p.values.length

/-- Whether there are no parameters. -/
def isEmpty (p : Parameters) : Bool := p.values.isEmpty

/-- The parameter at an index that counts from zero. -/
def get? (p : Parameters) (index : Nat) : Option Value := p.values[index]?

/-- Adds a value and answers the position of its placeholder. -/
def push (p : Parameters) (v : Value) : Nat × Parameters := (p.size + 1, ⟨p.values ++ [v]⟩)

/-- The parameters followed by others. -/
def extend (p q : Parameters) : Parameters := ⟨p.values ++ q.values⟩

end Parameters

/-- A statement with placeholders and the parameters they stand for. -/
structure Prepared where
  sql : String
  parameters : Parameters
  deriving Inhabited

/-- The prepared form of a fragment. -/
def Fragment.prepare (d : Dialect) (f : Fragment) : Prepared := ⟨f.prepared d 0, ⟨f.values⟩⟩

namespace Rendering

/-- Writes a rendering with placeholders after parameters that are there already. A refusal leaves
the values that were bound before it. -/
def prepareAfter (d : Dialect) (p : Parameters) (r : Rendering) :
    Except DbError String × Parameters :=
  (r.result.map fun f => f.prepared d p.size, ⟨p.values ++ r.written.values⟩)

end Rendering

end SqlAccess
