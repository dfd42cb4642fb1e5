import Mathlib.Algebra.Order.Ring.Nat
import Mathlib.Data.List.DropRight
import SqlAccess.Monitor.Basic

/-!
# Statistics sum up the history

The counters of a monitor are the counts and sums of the statements that have finished since the
last reset. Counts go round at the end of a word and the time stops there. The
slowest statement is the earliest one that took the longest time. A monitor among others, however
deep, counts as if it were told everything itself.
-/

namespace SqlAccess

/-- A finished statement as a monitor is told about it. -/
structure Finished where
  context : StatementContext
  elapsed : Calendar.Duration
  outcome : Outcome
  deriving DecidableEq

namespace Finished

/-- The nanoseconds it took, where a longer time than a word holds counts as the largest word. -/
def nanos (f : Finished) : Nat := min f.elapsed.totalNanos (UInt64.size - 1)

/-- The rows it has read or changed; none when it failed. -/
def rows (f : Finished) : Nat :=
  match f.outcome with
  | .rows n => n
  | .affected n => n.toNat
  | .error _ => 0

/-- A statement took no time or a time that counts. -/
private theorem nanos_eq_zero_iff (f : Finished) : f.nanos = 0 ↔ f.elapsed.totalNanos = 0 := by
  have hsize : UInt64.size - 1 ≠ 0 := by decide
  unfold nanos
  omega

/-- The longest time of several statements, zero when there are none. -/
def longest (fs : List Finished) : Nat := (fs.map nanos).foldl max 0

/-- The earliest of the statements that took the longest time, if they took any. -/
def slowest? (fs : List Finished) : Option Finished :=
  fs.find? fun f => 0 < f.nanos ∧ f.nanos = longest fs

/-- One more statement is the longest, or the longest stays. -/
theorem longest_concat (fs : List Finished) (f : Finished) :
    longest (fs ++ [f]) = max (longest fs) f.nanos := by
  simp only [longest, List.map_append, List.foldl_append, List.map_cons, List.map_nil,
    List.foldl_cons, List.foldl_nil]

/-- No statement took longer. -/
theorem nanos_le_longest {fs : List Finished} {f : Finished} (h : f ∈ fs) :
    f.nanos ≤ longest fs := by
  induction fs using List.reverseRecOn with
  | nil => cases h
  | append_singleton fs g ih =>
    rw [longest_concat]
    obtain h | h := List.mem_append.mp h
    · exact Nat.le_trans (ih h) (Nat.le_max_left _ _)
    · rw [List.mem_singleton.mp h]
      exact Nat.le_max_right _ _

/-- Some statement took the longest time. -/
theorem exists_nanos_eq_longest {fs : List Finished} (h : 0 < longest fs) :
    ∃ f ∈ fs, f.nanos = longest fs := by
  induction fs using List.reverseRecOn with
  | nil => cases h
  | append_singleton fs g ih =>
    rw [longest_concat] at h ⊢
    by_cases hlonger : longest fs < g.nanos
    · exact ⟨g, by simp, by omega⟩
    · obtain ⟨f, hf, hnanos⟩ := ih (by omega)
      exact ⟨f, List.mem_append_left _ hf, by omega⟩

/-- The longest time is zero exactly when no statement took any. -/
theorem longest_eq_zero_iff {fs : List Finished} :
    longest fs = 0 ↔ ∀ f ∈ fs, f.elapsed.totalNanos = 0 := by
  simp only [← nanos_eq_zero_iff]
  constructor
  · intro hzero f hf
    exact Nat.eq_zero_of_le_zero (hzero ▸ nanos_le_longest hf)
  · intro h
    by_contra hne
    obtain ⟨f, hf, hnanos⟩ := exists_nanos_eq_longest (Nat.pos_of_ne_zero hne)
    exact hne (hnanos ▸ h f hf)

/-- A slowest statement is missing only where no time was taken. -/
theorem slowest?_eq_none_iff {fs : List Finished} : slowest? fs = none ↔ longest fs = 0 := by
  simp only [slowest?, List.find?_eq_none, decide_eq_true_eq, not_and]
  constructor
  · intro h
    by_contra hne
    obtain ⟨f, hf, hnanos⟩ := exists_nanos_eq_longest (Nat.pos_of_ne_zero hne)
    exact h f hf (by omega) hnanos
  · intro hzero f _ hpos hnanos
    omega

/-- A later statement is the slowest one only if it took longer than all before. -/
theorem slowest?_concat (fs : List Finished) (f : Finished) :
    slowest? (fs ++ [f]) = if longest fs < f.nanos then some f else slowest? fs := by
  rw [slowest?, longest_concat, List.find?_append]
  split
  · rename_i hlonger
    have hnone : (fs.find? fun g => 0 < g.nanos ∧ g.nanos = max (longest fs) f.nanos) = none := by
      simp only [List.find?_eq_none, decide_eq_true_eq]
      intro g hg
      have := nanos_le_longest hg
      omega
    rw [hnone, Option.none_or]
    exact List.find?_cons_of_pos (by simp only [decide_eq_true_eq]; omega)
  · rename_i hlonger
    rw [Nat.max_eq_left (Nat.not_lt.mp hlonger), ← slowest?]
    cases hslowest : slowest? fs with
    | some g => exact Option.some_or
    | none =>
      have hzero := slowest?_eq_none_iff.mp hslowest
      rw [Option.none_or, List.find?_eq_none]
      simp only [List.mem_singleton, forall_eq, decide_eq_true_eq]
      omega

end Finished

namespace Stats

open Finished

/-- Counters that sum up statements: counts and sums go round at the end of a word, and the time
stops there. -/
structure SumsUp (s : Stats) (fs : List Finished) : Prop where
  total : s.total.toNat = fs.length % UInt64.size
  failed : s.failed.toNat = (fs.countP fun f => f.outcome.isError) % UInt64.size
  selects : s.selects.toNat = (fs.countP fun f => f.context.kind = .select) % UInt64.size
  inserts : s.inserts.toNat = (fs.countP fun f => f.context.kind = .insert) % UInt64.size
  updates : s.updates.toNat = (fs.countP fun f => f.context.kind = .update) % UInt64.size
  deletes : s.deletes.toNat = (fs.countP fun f => f.context.kind = .delete) % UInt64.size
  rows : s.rows.toNat = (fs.map Finished.rows).sum % UInt64.size
  totalNanos : s.totalNanos.toNat = min (fs.map nanos).sum (UInt64.size - 1)
  maxNanos : s.maxNanos.toNat = longest fs
  slowest : s.slowest = (slowest? fs).map fun f => f.context.sql

/-- Statements determine the counters that sum them up. -/
theorem SumsUp.unique {s t : Stats} {fs : List Finished} (hs : s.SumsUp fs) (ht : t.SumsUp fs) :
    s = t := by
  have hword {a b : UInt64} {n : Nat} (ha : a.toNat = n) (hb : b.toNat = n) : a = b :=
    UInt64.toNat_inj.mp (ha.trans hb.symm)
  exact Stats.ext (hword hs.total ht.total) (hword hs.failed ht.failed)
    (hword hs.totalNanos ht.totalNanos) (hword hs.selects ht.selects)
    (hword hs.inserts ht.inserts) (hword hs.updates ht.updates) (hword hs.deletes ht.deletes)
    (hword hs.rows ht.rows) (hword hs.maxNanos ht.maxNanos) (hs.slowest.trans ht.slowest.symm)

/-- The slowest statement is missing exactly when no statement took any time. -/
theorem SumsUp.slowest_eq_none_iff {s : Stats} {fs : List Finished} (h : s.SumsUp fs) :
    s.slowest = none ↔ ∀ f ∈ fs, f.elapsed.totalNanos = 0 := by
  rw [h.slowest, Option.map_eq_none_iff, slowest?_eq_none_iff, longest_eq_zero_iff]

/-! ## One statement more -/

/-- Words that go round add up like the numbers that they stand for. -/
theorem toNat_add_of_mod {a b : UInt64} {m n : Nat} (ha : a.toNat = m % UInt64.size)
    (hb : b.toNat = n % UInt64.size) : (a + b).toNat = (m + n) % UInt64.size := by
  rw [UInt64.toNat_add, ha, hb]
  exact (Nat.add_mod m n _).symm

/-- A counter of the statements with some property goes up with one that has it. -/
theorem toNat_add_tally {a : UInt64} {fs : List Finished} {p : Finished → Bool}
    (h : a.toNat = fs.countP p % UInt64.size) (f : Finished) :
    (a + tally (p f)).toNat = (fs ++ [f]).countP p % UInt64.size := by
  rw [List.countP_append, List.countP_singleton]
  refine toNat_add_of_mod h ?_
  cases p f <;> rfl

/-- The rows of a statement as a counter adds them. -/
private theorem toNat_size (f : Finished) : f.outcome.size.toNat = f.rows % UInt64.size := by
  unfold Finished.rows Outcome.size
  cases f.outcome with
  | rows n => exact UInt64.toNat_ofNat'
  | affected n => exact (Nat.mod_eq_of_lt n.toNat_lt).symm
  | error => rfl

/-- Counters that sum up statements sum up one more after it has been counted. -/
theorem SumsUp.record {s : Stats} {fs : List Finished} (h : s.SumsUp fs) (f : Finished) :
    (s.record f.context f.elapsed f.outcome).SumsUp (fs ++ [f]) := by
  have hnanos : (countedNanos f.elapsed).toNat = f.nanos := toNat_countedNanos f.elapsed
  have hlonger : s.maxNanos < countedNanos f.elapsed ↔ longest fs < f.nanos := by
    rw [UInt64.lt_iff_toNat_lt, h.maxNanos, hnanos]
  exact {
    total := by
      rw [List.length_append]
      exact toNat_add_of_mod h.total rfl
    failed := toNat_add_tally h.failed f
    selects := toNat_add_tally h.selects f
    inserts := toNat_add_tally h.inserts f
    updates := toNat_add_tally h.updates f
    deletes := toNat_add_tally h.deletes f
    rows := by
      rw [List.map_append, List.sum_append, List.map_singleton, List.sum_singleton]
      exact toNat_add_of_mod h.rows (toNat_size f)
    totalNanos := by
      rw [List.map_append, List.sum_append, List.map_singleton, List.sum_singleton]
      have hsum := toNat_saturatingAdd s.totalNanos (countedNanos f.elapsed)
      rw [h.totalNanos, hnanos] at hsum
      exact hsum.trans (by omega)
    maxNanos := by
      rw [longest_concat]
      simp only [Stats.record, decide_eq_true_eq, hlonger]
      split
      · omega
      · rw [h.maxNanos]
        omega
    slowest := by
      rw [slowest?_concat]
      simp only [Stats.record, decide_eq_true_eq, hlonger]
      split
      · rfl
      · exact h.slowest }

/-- The counters of a new monitor sum up nothing. -/
theorem sumsUp_nil : ({} : Stats).SumsUp [] where
  total := rfl
  failed := rfl
  selects := rfl
  inserts := rfl
  updates := rfl
  deletes := rfl
  rows := rfl
  totalNanos := rfl
  maxNanos := rfl
  slowest := rfl

end Stats

/-! ## Histories -/

/-- What happens to a counting monitor: it is told something, or it is reset. -/
inductive StatsCall
  | told (n : Notice)
  | reset

namespace StatsCall

/-- The statement that a call tells to have finished. -/
def finished? : StatsCall → Option Finished
  | .told (.finished c elapsed o) => some ⟨c, elapsed, o⟩
  | _ => none

/-- Whether a call forgets everything. -/
def isReset : StatsCall → Bool
  | .reset => true
  | _ => false

/-- The statements that have finished since the last reset. -/
def sinceReset (calls : List StatsCall) : List Finished :=
  (calls.rtakeWhile fun call => !call.isReset).filterMap finished?

/-- What is told counts from the last reset on. -/
theorem sinceReset_told (calls : List StatsCall) (n : Notice) :
    sinceReset (calls ++ [.told n]) = sinceReset calls ++ (finished? (.told n)).toList := by
  rw [sinceReset, List.rtakeWhile_concat_pos _ _ _ rfl, List.filterMap_append]
  cases n <;> rfl

/-- After a reset nothing counts. -/
theorem sinceReset_reset (calls : List StatsCall) : sinceReset (calls ++ [.reset]) = [] := by
  rw [sinceReset, List.rtakeWhile_concat_neg _ _ _ (by simp [isReset]), List.filterMap_nil]

end StatsCall

namespace Stats

open StatsCall

/-- The counters after a call. -/
def after (s : Stats) : StatsCall → Stats
  | .told n => s.told n
  | .reset => s.reset

/-- The counters after calls, one at a time. -/
def run (s : Stats) (calls : List StatsCall) : Stats := calls.foldl after s

/-- Counters that sum up what has finished since the last reset do so after one more call. -/
theorem SumsUp.after {s : Stats} {calls : List StatsCall} (h : s.SumsUp (sinceReset calls))
    (call : StatsCall) : (s.after call).SumsUp (sinceReset (calls ++ [call])) := by
  cases call with
  | reset =>
    rw [sinceReset_reset, Stats.after, reset_eq]
    exact sumsUp_nil
  | told n =>
    rw [sinceReset_told]
    cases n with
    | started c =>
      have hnone : (finished? (.told (.started c))).toList = [] := rfl
      rw [hnone, List.append_nil]
      exact h
    | finished c elapsed o => exact h.record ⟨c, elapsed, o⟩

/-- A new monitor sums up what has finished since the last reset. -/
theorem sumsUp_run (calls : List StatsCall) : (({} : Stats).run calls).SumsUp (sinceReset calls) := by
  induction calls using List.reverseRecOn with
  | nil => exact sumsUp_nil
  | append_singleton calls call ih =>
    rw [run, List.foldl_append]
    exact ih.after call

end Stats

/-! ## Monitors among others -/

namespace Monitor

mutual

/-- The counters in a monitor, from left to right. Each stands in one place. -/
def counters : Monitor → List Stats
  | .stats s => [s]
  | .composite members => allCounters members
  | _ => []

/-- The counters in several monitors. -/
def allCounters : List Monitor → List Stats
  | [] => []
  | m :: rest => counters m ++ allCounters rest

end

/-- A monitor after it was told several things. -/
def hear (m : Monitor) (ns : List Notice) : Monitor := ns.foldl (fun m n => (m.notify n).1) m

mutual

/-- Every counting monitor in a monitor is told what the monitor is told. -/
theorem counters_notify (n : Notice) : (m : Monitor) →
    (notify n m).1.counters = m.counters.map fun s => s.told n
  | .silent | .stats _ | .recorder _ => rfl
  | .tracing _ => by cases n <;> rfl
  | .composite members => allCounters_notifyAll n members

/-- Every counting monitor in several monitors is told what they are told. -/
theorem allCounters_notifyAll (n : Notice) : (ms : List Monitor) →
    allCounters (notifyAll n ms).1 = (allCounters ms).map fun s => s.told n
  | [] => rfl
  | m :: rest => by
    rw [notifyAll, allCounters, allCounters, List.map_append, counters_notify n m,
      allCounters_notifyAll n rest]

end

/-- Every counting monitor in a monitor hears all that the monitor hears. -/
theorem counters_hear (m : Monitor) (ns : List Notice) :
    (m.hear ns).counters = m.counters.map fun s => s.run (ns.map .told) := by
  induction ns generalizing m with
  | nil => exact (List.map_id _).symm
  | cons n ns ih =>
    rw [hear, List.foldl_cons, ← hear, ih, counters_notify, List.map_map]
    rfl

end Monitor

namespace Stats

open StatsCall

/-- The counters of a new monitor after any calls are the ones that sum up what has finished since
the last reset, and there is a slowest statement unless none took any time. A composite monitor
leaves every counting monitor in it as if that one had been told everything itself. -/
theorem statistics_sum_up_since_reset :
    (∀ (calls : List StatsCall) (s : Stats),
      ({} : Stats).run calls = s ↔ s.SumsUp (sinceReset calls)) ∧
    (∀ calls : List StatsCall, (({} : Stats).run calls).slowest = none ↔
      ∀ f ∈ sinceReset calls, f.elapsed.totalNanos = 0) ∧
    ∀ (members : List Monitor) (ns : List Notice),
      ((Monitor.composite members).hear ns).counters =
        (Monitor.composite members).counters.map fun s => s.run (ns.map .told) := by
  refine ⟨fun calls s => ⟨?_, (sumsUp_run calls).unique⟩,
    fun calls => (sumsUp_run calls).slowest_eq_none_iff,
    fun members ns => Monitor.counters_hear _ ns⟩
  rintro rfl
  exact sumsUp_run calls

/-- Of two statements that took the same time the earlier one is the slowest, and nothing from
before a reset is. -/
example :
    (({} : Stats).run
      [.told (.finished ⟨"DELETE FROM a", 0, .delete, "MySQL"⟩ (.ofNanos 9) (.affected 1)), .reset,
        .told (.finished ⟨"SELECT 1", 0, .select, "MySQL"⟩ (.ofNanos 7) (.rows 1)),
        .told (.finished ⟨"SELECT 2", 0, .select, "MySQL"⟩ (.ofNanos 7) (.error "gone"))]).slowest =
      some "SELECT 1" := by
  decide

end Stats

end SqlAccess
