/-!
# Lengths of time

A duration is a number of seconds below 2 ^ 64 and nanoseconds below one second. Its text
is in the largest of seconds, milliseconds, microseconds and nanoseconds that it
reaches, with as many places as it needs.
-/

namespace SqlAccess.Calendar

/-- A length of time. -/
structure Duration where
  seconds : UInt64
  nanos : Nat
  nanos_lt : nanos < 1000000000
  deriving DecidableEq

namespace Duration

instance : Inhabited Duration := ⟨⟨0, 0, by decide⟩⟩

/-- The whole length in nanoseconds. -/
def totalNanos (d : Duration) : Nat := d.seconds.toNat * 1000000000 + d.nanos

/-- The duration of a number of nanoseconds; more seconds than a word holds go round. -/
def ofNanos (n : Nat) : Duration :=
  ⟨.ofNat (n / 1000000000), n % 1000000000, Nat.mod_lt _ (by decide)⟩

/-- The duration of a number of milliseconds. -/
def ofMillis (n : UInt64) : Duration := ofNanos (n.toNat * 1000000)

/-- The whole milliseconds of a duration. -/
def totalMillis (d : Duration) : Nat := d.totalNanos / 1000000

/-- A number of units, with the places that a remainder below `unit` needs. -/
def amount (whole rest unit : Nat) : String :=
  let rec places : Nat → Nat → Nat → List Char
    | 0, _, _ => []
    | fuel + 1, rest, unit =>
      if rest = 0 then []
      else Nat.digitChar (rest / (unit / 10)) :: places fuel (rest % (unit / 10)) (unit / 10)
  if rest = 0 then toString whole
  else toString whole ++ "." ++ String.ofList (places 9 rest unit)

/-- The text of a duration, in the largest unit it reaches. -/
def text (d : Duration) : String :=
  if d.seconds ≠ 0 then amount d.seconds.toNat d.nanos 1000000000 ++ "s"
  else if 1000000 ≤ d.nanos then amount (d.nanos / 1000000) (d.nanos % 1000000) 1000000 ++ "ms"
  else if 1000 ≤ d.nanos then amount (d.nanos / 1000) (d.nanos % 1000) 1000 ++ "µs"
  else toString d.nanos ++ "ns"

end Duration

end SqlAccess.Calendar
