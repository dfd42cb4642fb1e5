import SqlAccess.Text.Blank

/-!
# Diagnostic events

What the library reports about itself while it works: a level, fields with their text, and a
message. Events about statements have a target of their own.
-/

namespace SqlAccess

/-- How important an event is. -/
inductive Level
  | trace
  | debug
  | info
  | warn
  | error
  deriving Repr, DecidableEq, Inhabited

/-- The name of a level. -/
def Level.name : Level → String
  | .trace => "TRACE"
  | .debug => "DEBUG"
  | .info => "INFO"
  | .warn => "WARN"
  | .error => "ERROR"

/-- The level with a name. -/
def Level.ofName? (s : String) : Option Level :=
  [Level.trace, .debug, .info, .warn, .error].find? fun l => l.name = s

/-- An event: its level, whether it is about a statement, and its fields in order. -/
structure Event where
  level : Level
  aboutStatement : Bool := false
  fields : List (String × String)
  deriving Repr, DecidableEq, Inhabited

/-- The target of the events about statements. -/
def Event.statementTarget : String := "fluentsql.sql"

/-- An event with a message after its fields. -/
def Event.ofMessage (level : Level) (message : String) (fields : List (String × String)) : Event :=
  { level, fields := fields ++ [("message", message)] }

end SqlAccess
