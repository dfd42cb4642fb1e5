import SqlAccess.Calendar.Duration

/-!
# Eviction

A connection that waits in a pool is thrown away rather than used again once it is too old
or has waited too long. Age is looked at first.
-/

namespace SqlAccess

/-- How old the connections of a pool may get, and how long they may wait. -/
structure Limits where
  maxLifetime : Option Calendar.Duration := none
  idleTimeout : Option Calendar.Duration := none
  deriving DecidableEq, Inhabited

namespace Limits

/-- Whether a time reaches a limit. -/
def reaches (time : Calendar.Duration) : Option Calendar.Duration → Bool
  | none => false
  | some limit => limit.totalNanos ≤ time.totalNanos

/-- Why a connection of an age that has waited for a time is thrown away, if it is. -/
def evictionReason (l : Limits) (age idle : Calendar.Duration) : Option String :=
  if reaches age l.maxLifetime then some "connection exceeded max lifetime"
  else if reaches idle l.idleTimeout then some "connection exceeded idle timeout"
  else none

end Limits

end SqlAccess
