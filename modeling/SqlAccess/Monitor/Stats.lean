import SqlAccess.Calendar.Duration
import SqlAccess.Monitor.Outcome

/-!
# Statistics of statements

Counters over all statements since the last reset. Counters are words and go round; the total time
stops at the largest word, and a statement longer than that counts as the largest word. The
slowest statement is the first one that took the longest time.
-/

namespace SqlAccess

/-- Counters over statements. Times are in nanoseconds. -/
@[ext]
structure Stats where
  total : UInt64 := 0
  failed : UInt64 := 0
  totalNanos : UInt64 := 0
  selects : UInt64 := 0
  inserts : UInt64 := 0
  updates : UInt64 := 0
  deletes : UInt64 := 0
  rows : UInt64 := 0
  maxNanos : UInt64 := 0
  slowest : Option String := none
  deriving Repr, DecidableEq, Inhabited

namespace Stats

/-- The nanoseconds of a duration, at most the largest word. -/
def countedNanos (d : Calendar.Duration) : UInt64 := .ofNat (min d.totalNanos (UInt64.size - 1))

/-- A counted duration is the duration as long as a word holds it. -/
theorem toNat_countedNanos (d : Calendar.Duration) :
    (countedNanos d).toNat = min d.totalNanos (UInt64.size - 1) :=
  UInt64.toNat_ofNat_of_lt' (Nat.lt_of_le_of_lt (Nat.min_le_right _ _) (by decide))

/-- A sum of words that stops at the largest word: a sum that has gone round is put right. -/
def saturatingAdd (a b : UInt64) : UInt64 :=
  let sum := a + b
  if a.toNat + b.toNat < UInt64.size then sum else .ofNat (UInt64.size - 1)

/-- The sum is the one of the numbers, at most the largest word. -/
theorem toNat_saturatingAdd (a b : UInt64) :
    (saturatingAdd a b).toNat = min (a.toNat + b.toNat) (UInt64.size - 1) := by
  unfold saturatingAdd
  split
  · rename_i h
    rw [UInt64.toNat_add, Nat.mod_eq_of_lt h, Nat.min_eq_left (Nat.le_sub_one_of_lt h)]
  · rename_i h
    rw [Nat.min_eq_right (Nat.le_trans (Nat.sub_le _ _) (Nat.not_lt.mp h))]
    rfl

/-- One if a condition holds. -/
def tally (b : Bool) : UInt64 := if b then 1 else 0

/-- The counters after a statement. -/
def record (s : Stats) (c : StatementContext) (elapsed : Calendar.Duration) (o : Outcome) : Stats :=
  let nanos := countedNanos elapsed
  let longer : Bool := s.maxNanos < nanos
  { total := s.total + 1
    failed := s.failed + tally o.isError
    totalNanos := saturatingAdd s.totalNanos nanos
    selects := s.selects + tally (c.kind = .select)
    inserts := s.inserts + tally (c.kind = .insert)
    updates := s.updates + tally (c.kind = .update)
    deletes := s.deletes + tally (c.kind = .delete)
    rows := s.rows + o.size
    maxNanos := if longer then nanos else s.maxNanos
    slowest := if longer then some c.sql else s.slowest }

/-- The counters after a reset, whatever they were. -/
def reset (_ : Stats) : Stats :=
  { total := 0
    failed := 0
    totalNanos := 0
    selects := 0
    inserts := 0
    updates := 0
    deletes := 0
    rows := 0
    maxNanos := 0
    slowest := none }

/-- Statistics that are reset are those of the start. -/
@[simp] theorem reset_eq (s : Stats) : s.reset = {} := rfl

end Stats

end SqlAccess
