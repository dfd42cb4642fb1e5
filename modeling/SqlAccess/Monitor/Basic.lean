import SqlAccess.Monitor.Stats
import SqlAccess.Trace

/-!
# Monitors

A monitor is told when a statement starts and when it ends, and cannot change either. Some count,
some report an event, some keep what they were told, and one passes everything on to several
others.
-/

namespace SqlAccess

/-- How finished statements are reported as events. -/
structure TracingMonitor where
  level : Level := .debug
  /-- The most bytes of a statement's text that are shown. -/
  maxSqlBytes : Option Nat := some 200
  /-- The time from which on a statement is slow. -/
  slowThreshold : Option Calendar.Duration := none
  deriving Inhabited

namespace TracingMonitor

/-- The text of a statement as it is shown. -/
def shownSql (m : TracingMonitor) (sql : String) : String :=
  match m.maxSqlBytes with
  | some max => Outcome.shorten max sql
  | none => sql

/-- Whether a time counts as slow. -/
def isSlow (m : TracingMonitor) (elapsed : Calendar.Duration) : Bool :=
  match m.slowThreshold with
  | some t => t.totalNanos ≤ elapsed.totalNanos
  | none => false

/-- The event about a finished statement; failed and slow ones are warnings. -/
def event (m : TracingMonitor) (c : StatementContext) (elapsed : Calendar.Duration) (o : Outcome) :
    Event :=
  let slow := m.isSlow elapsed
  { level := if o.isError || slow then .warn else m.level
    aboutStatement := true
    fields :=
      [("backend", c.backend), ("query_type", c.kind.name),
        ("param_count", toString c.parameterCount), ("elapsed", elapsed.text), ("result", o.text),
        ("slow", if slow then "true" else "false"), ("sql", m.shownSql c.sql)] }

end TracingMonitor

/-- What a monitor can be told. -/
inductive Notice
  | started (c : StatementContext)
  | finished (c : StatementContext) (elapsed : Calendar.Duration) (o : Outcome)
  deriving Inhabited

/-- A notice in one line; times are in nanoseconds. -/
def Notice.text : Notice → String
  | .started c => "start " ++ c.kind.name ++ " " ++ c.sql
  | .finished c elapsed o =>
    " ".intercalate ["done", c.kind.name, toString c.parameterCount, toString elapsed.totalNanos,
      o.text]

/-- The counters after a notice; only finished statements count. -/
def Stats.told (s : Stats) : Notice → Stats
  | .started _ => s
  | .finished c elapsed o => s.record c elapsed o

/-- Those that are told about statements. -/
inductive Monitor
  /-- Does nothing. -/
  | silent
  | tracing (m : TracingMonitor)
  | stats (s : Stats)
  /-- Keeps everything it is told. -/
  | recorder (notices : List Notice)
  /-- Tells every one of its members. -/
  | composite (members : List Monitor)
  deriving Inhabited

namespace Monitor

mutual

/-- The monitor after a notice, and the events it reports. -/
def notify (n : Notice) : Monitor → Monitor × List Event
  | .silent => (.silent, [])
  | .tracing m =>
    match n with
    | .started _ => (.tracing m, [])
    | .finished c elapsed o => (.tracing m, [m.event c elapsed o])
  | .stats s => (.stats (s.told n), [])
  | .recorder notices => (.recorder (notices ++ [n]), [])
  | .composite members =>
    let (members, events) := notifyAll n members
    (.composite members, events)

/-- Several monitors after a notice. -/
def notifyAll (n : Notice) : List Monitor → List Monitor × List Event
  | [] => ([], [])
  | m :: rest =>
    let (m, events) := notify n m
    let (rest, more) := notifyAll n rest
    (m :: rest, events ++ more)

end

/-- What a recorder was told, or the first one among several. -/
def notices : Monitor → List Notice
  | .recorder notices => notices
  | .composite members =>
    (members.findSome? fun | .recorder notices => some notices | _ => none).getD []
  | _ => []

/-- The counters of the first counting monitor. -/
def stats? : Monitor → Option Stats
  | .stats s => some s
  | .composite members => (members.findSome? fun | .stats s => some s | _ => none)
  | _ => none

end Monitor

end SqlAccess
