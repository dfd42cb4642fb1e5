import SqlAccess.Dialect
import SqlAccess.Error

/-!
# Fragments of statements

A statement is rendered once, into a list of segments: fixed text, values in their places, and the
few places whose form depends on the dialect. Both ways of writing it read the same segments. The
literal form writes each value as a literal; the prepared form writes a numbered placeholder
instead and hands over the values in the order of their placeholders.
-/

namespace SqlAccess

/-- One piece of a statement. -/
inductive Segment
  /-- Text that is the same in every dialect. -/
  | text (s : String)
  /-- A value, as a literal or as a placeholder. -/
  | bound (v : Value)
  /-- A column compared with a point in time; the literal form compares compact texts. -/
  | instant (column symbol : String) (v : Value)
  /-- The clause that cuts a window out of the rows. -/
  | window (w : Window)

namespace Segment

/-- The values that a segment binds. -/
def values : Segment → List Value
  | .text _ => []
  | .bound v => [v]
  | .instant _ _ v => [v]
  | .window _ => []

/-- A segment with its value written as a literal. -/
def literal (d : Dialect) : Segment → String
  | .text s => s
  | .bound v => d.literal v
  | .instant column symbol v =>
    d.temporalColumn column ++ " " ++ symbol ++ " " ++ d.quote (v.compactTimestamp.getD "")
  | .window w => d.window w

/-- A segment with a placeholder for its value, which gets the given position. -/
def prepared (d : Dialect) (position : Nat) : Segment → String
  | .text s => s
  | .bound _ => d.placeholder position
  | .instant column symbol _ => column ++ " " ++ symbol ++ " " ++ d.placeholder position
  | .window w => d.window w

end Segment

/-- A statement or a part of one, as its segments in order. -/
abbrev Fragment := List Segment

namespace Fragment

/-- The values of a fragment, in the order of their places. -/
def values (f : Fragment) : List Value := f.flatMap Segment.values

/-- The text of a fragment with every value as a literal. -/
def literal (d : Dialect) : Fragment → String
  | [] => ""
  | s :: rest => s.literal d ++ literal d rest

/-- The text of a fragment with placeholders; `used` positions are taken already. -/
def prepared (d : Dialect) (used : Nat) : Fragment → String
  | [] => ""
  | s :: rest => s.prepared d (used + 1) ++ prepared d (used + s.values.length) rest

/-- Several fragments with a text between neighbours. -/
def joinWith (separator : String) : List Fragment → Fragment
  | [] => []
  | [f] => f
  | f :: rest => f ++ .text separator :: joinWith separator rest

/-- Values separated by a text. -/
def ofValues (separator : String) (vs : List Value) : Fragment :=
  joinWith separator (vs.map fun v => [.bound v])

/-- A fragment without segments binds no values. -/
@[simp] theorem values_nil : values [] = [] := rfl

/-- A fragment binds the values of its first segment before the others. -/
@[simp] theorem values_cons (s : Segment) (f : Fragment) :
    values (s :: f) = s.values ++ values f := rfl

/-- Fragments one after another bind the values of the first before those of the second. -/
@[simp] theorem values_append (f g : Fragment) : values (f ++ g) = values f ++ values g :=
  List.flatMap_append

end Fragment

/-- A fragment that could not be finished: what was written before, and why it ended. -/
structure Refusal where
  written : Fragment
  cause : DbError

/-- A fragment, or how far it got. -/
abbrev Rendering := Except Refusal Fragment

namespace Rendering

/-- Fixed text. -/
def text (s : String) : Rendering := .ok [.text s]

/-- One rendering after another; a refusal keeps all that was written before it. -/
def append : Rendering → Rendering → Rendering
  | .error r, _ => .error r
  | .ok f, .ok g => .ok (f ++ g)
  | .ok f, .error r => .error ⟨f ++ r.written, r.cause⟩

instance : Append Rendering := ⟨append⟩

/-- Everything that a rendering wrote, finished or not. -/
def written : Rendering → Fragment
  | .ok f => f
  | .error r => r.written

/-- The fragment, or the reason why there is none. -/
def result : Rendering → Except DbError Fragment
  | .ok f => .ok f
  | .error r => .error r.cause

end Rendering

end SqlAccess
