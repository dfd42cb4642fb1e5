import SqlAccess.Connection.Basic
import SqlAccess.Pool.Eviction

/-!
# Pools

A pool keeps the backends that were given back and hands them out again, the one that has waited
longest first. Backends that have been closed or are past a limit are thrown away on the way. When
none waits, a new one is opened, unless as many as allowed are in use. What attempts to connect are
going to give is part of the pool; when nothing is listening, they fail.
-/

namespace SqlAccess

/-- A backend that waits in a pool; times are nanoseconds on the pool's clock. -/
structure Waiting (β : Type) where
  backend : β
  openedAt : Nat
  since : Nat

/-- Backends that wait, and how many are in use. -/
structure Pool (β : Type) where
  /-- The most backends that may be in use at a time. -/
  capacity : Nat
  limits : Limits := {}
  /-- What the next attempts to connect will give. -/
  arrivals : List (Except DbError β) := []
  waiting : List (Waiting β) := []
  inUse : Nat := 0
  isClosed : Bool := false
  now : Nat := 0

namespace Pool

variable {β : Type} [Backend β]

/-- The error of a pool that was closed. -/
def closed : DbError := .configuration "connection pool is closed"

/-- The error of waiting in vain. -/
def noSlot : DbError := .pool "Timeout occurred while waiting for a slot to become available"

/-- The error of a server that does not answer. -/
def unreachable : DbError :=
  .statement (.ofMessage "error connecting to server") "error connecting to server"

/-- Whether a waiting backend may be used again. -/
def isUsable (p : Pool β) (w : Waiting β) : Bool :=
  Backend.isOpen w.backend &&
    (p.limits.evictionReason (.ofNanos (p.now - w.openedAt)) (.ofNanos (p.now - w.since))).isNone

/-- Opens a new backend. -/
def connect (p : Pool β) : Except DbError (β × Nat) × Pool β :=
  match p.arrivals with
  | [] => (.error unreachable, p)
  | .error e :: rest => (.error e, { p with arrivals := rest })
  | .ok b :: rest => (.ok (b, p.now), { p with arrivals := rest, inUse := p.inUse + 1 })

/-- Hands out a backend, with the time at which it was opened; a new one only if none waits and the
check of the target passes. -/
def acquire (target : Except DbError Unit) : Action (Pool β) (β × Nat) := fun p =>
  if p.isClosed then (.error closed, p)
  else if p.capacity ≤ p.inUse then (.error noSlot, p)
  else
    match p.waiting.dropWhile fun w => !p.isUsable w with
    | w :: rest => (.ok (w.backend, w.openedAt), { p with waiting := rest, inUse := p.inUse + 1 })
    | [] =>
      match target with
      | .error e => (.error e, { p with waiting := [] })
      | .ok _ => connect { p with waiting := [] }

/-- Takes a backend out of use; it waits again, if there is one left and the pool is open. -/
def giveBack (b : Option β) (openedAt : Nat) (p : Pool β) : Pool β :=
  { p with
    inUse := p.inUse - 1
    waiting :=
      match b with
      | some b => if p.isClosed then [] else p.waiting ++ [⟨b, openedAt, p.now⟩]
      | none => p.waiting }

/-- Closes a pool: what waits is thrown away, what is in use may be finished. -/
def close (p : Pool β) : Pool β := { p with isClosed := true, waiting := [] }

/-- Lets time pass. -/
def wait (d : Calendar.Duration) (p : Pool β) : Pool β := { p with now := p.now + d.totalNanos }

end Pool

end SqlAccess
