import SqlAccess.Action
import SqlAccess.Calendar.Duration
import SqlAccess.Record
import SqlAccess.Dialect
import SqlAccess.Trace

/-!
# Backends

A backend is one connection as the server's protocol gives it, without transactions, checks of
parameters and reports. A statement may have a limit of time; one that takes longer ends with a
timeout, and the backend is then asked to cancel it. A backend that is let go is closed for good.
-/

namespace SqlAccess

/-- What a connection works on. -/
class Backend (β : Type) where
  /-- The dialect of the server. -/
  dialect : β → Dialect
  /-- Runs a statement within a limit of time and answers how many rows it changed. -/
  execute : Option Calendar.Duration → String → List Value → Action β UInt64
  /-- Runs a query within a limit of time; binary cells are cut to a number of bytes. -/
  query : Option Calendar.Duration → Nat → String → List Value → Action β RecordSet
  /-- Runs a statement that has neither parameters nor rows. -/
  control : String → Action β Unit
  /-- The id that the last insert generated, if the server told it together with the answer. -/
  generatedId : β → Option UInt64
  /-- Gives up the statement that ran out of time. -/
  cancel : β → β
  /-- Closes the connection instead of keeping it for others. -/
  letGo : β → β
  /-- Whether the backend has not been let go. -/
  isHeld : β → Bool
  /-- Whether the server is still there. -/
  isOpen : β → Bool
  /-- The time that the last statement took. -/
  elapsed : β → Calendar.Duration
  /-- What was reported while the last statement ran. -/
  events : β → List Event

end SqlAccess
