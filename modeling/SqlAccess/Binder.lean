import SqlAccess.Dialect
import SqlAccess.Error
import SqlAccess.Trace

/-!
# Binding

Before parameters reach a server they are checked: a list has to be expanded into one placeholder
per item first, and a value of no known kind is bound as text and reported. With the injection
filter on, quotes, backslashes and NUL in text are escaped once some text holds a quote or a
backslash.
-/

namespace SqlAccess

/-- How parameters are bound. -/
structure Binder where
  injectionFilter : Bool
  deriving Repr, DecidableEq, Inhabited

/-- Parameters ready to be bound; `unchanged` says that they are the ones that were given. -/
structure Bound where
  values : List Value
  unchanged : Bool
  deriving Inhabited

namespace Binder

/-- The report about a value of no known kind. -/
def unrecognized (position : Nat) (text : String) : Event :=
  .ofMessage .warn "binding unrecognized value as text"
    [("index", toString position), ("value", text)]

/-- The refusal of a list at a position. -/
def listRefused (position : Nat) : DbError :=
  .validation ("parameter " ++ toString position ++
    " is a list; expand it into one placeholder per element")

/-- Checks values from a position on, and reports those of no known kind before the first list. -/
def check (position : Nat) : List Value → List Event × Except DbError Unit
  | [] => ([], .ok ())
  | .list _ :: _ => ([], .error (listRefused position))
  | .other s :: rest =>
    let (events, result) := check (position + 1) rest
    (unrecognized position s :: events, result)
  | _ :: rest => check (position + 1) rest

/-- Whether a value is a text with a quote or a backslash. -/
def needsEscape : Value → Bool
  | .text s => s.toList.any fun c => c = '\'' || c = '\\'
  | _ => false

/-- A value with its text escaped. -/
def escaped : Value → Value
  | .text s => .text (escapeInjection s)
  | v => v

/-- Checks values and returns them in the order of their placeholders. -/
def bind (b : Binder) (values : List Value) : List Event × Except DbError Bound :=
  let (events, result) := check 1 values
  (events, result.map fun _ =>
    if b.injectionFilter && values.any needsEscape then ⟨values.map escaped, false⟩
    else ⟨values, true⟩)

end Binder

end SqlAccess
