import SqlAccess.Config.Reading

/-!
# Settings of time

Four settings are lengths of time. Each holds whole milliseconds in a word, and giving it a length
changes its member and no other. A length whose milliseconds fit the word is rounded down to whole
ones, so a longer one never makes the setting shorter; of a length beyond that the word keeps the
milliseconds that are left when it has gone round.
-/

namespace SqlAccess

open Calendar

namespace Calendar.Duration

/-- The milliseconds of a word are a length of as many nanoseconds. -/
theorem totalNanos_ofMillis (n : UInt64) : (ofMillis n).totalNanos = n.toNat * 1000000 := by
  have hword := n.toNat_lt
  have hseconds : n.toNat * 1000000 / 1000000000 < 2 ^ 64 := by omega
  simp only [totalNanos, ofMillis, ofNanos, UInt64.toNat_ofNat_of_lt' hseconds]
  omega

/-- A length is its number of nanoseconds. -/
theorem ofNanos_totalNanos (d : Duration) : ofNanos d.totalNanos = d := by
  obtain ⟨seconds, nanos, hnanos⟩ := d
  have hwhole : (seconds.toNat * 1000000000 + nanos) / 1000000000 = seconds.toNat := by omega
  have hrest : (seconds.toNat * 1000000000 + nanos) % 1000000000 = nanos := by omega
  simp only [ofNanos, totalNanos, hwhole, hrest, UInt64.ofNat_toNat]

/-- A span of time is known by its nanoseconds. -/
theorem totalNanos_inj {d e : Duration} : d.totalNanos = e.totalNanos ↔ d = e := by
  constructor
  · intro h
    rw [← ofNanos_totalNanos d, h, ofNanos_totalNanos]
  · rintro rfl
    rfl

/-- A length rounded down to whole milliseconds, and at most as many of them as a word holds. -/
def capped (d : Duration) : Duration := ofMillis (.ofNat (min d.totalMillis (UInt64.size - 1)))

/-- A span that is capped has whole milliseconds, as many as a word holds at most. -/
theorem totalNanos_capped (d : Duration) :
    d.capped.totalNanos = min d.totalMillis (UInt64.size - 1) * 1000000 := by
  have hfits : min d.totalMillis (UInt64.size - 1) < UInt64.size := by
    have hsize : UInt64.size = 18446744073709551616 := rfl
    omega
  rw [capped, totalNanos_ofMillis, UInt64.toNat_ofNat_of_lt' hfits]

end Calendar.Duration

namespace Config

/-- The settings that are lengths of time. -/
inductive TimeSetting
  | maxLifetime
  | idleTimeout
  | connectionTimeout
  | statementTimeout

namespace TimeSetting

/-- The name of the setting. -/
def name : TimeSetting → String
  | .maxLifetime => "max_lifetime_ms"
  | .idleTimeout => "idle_timeout_ms"
  | .connectionTimeout => "connection_timeout_ms"
  | .statementTimeout => "statement_timeout_ms"

/-- The change that gives the setting a length. -/
def toChange : TimeSetting → Duration → Change
  | .maxLifetime => .maxLifetime
  | .idleTimeout => .idleTimeout
  | .connectionTimeout => .connectionTimeout
  | .statementTimeout => .statementTimeout

/-- The length that the setting has. -/
def length : TimeSetting → Config → Option Duration
  | .maxLifetime => Config.maxLifetime
  | .idleTimeout => Config.idleTimeout
  | .connectionTimeout => Config.connectionTimeout
  | .statementTimeout => Config.statementTimeout

/-- The configuration with a length for the setting. -/
def give (s : TimeSetting) (d : Duration) (c : Config) : Config := c.change (s.toChange d)

/-- What is given comes back as the milliseconds that the word keeps. -/
theorem length_give (s : TimeSetting) (d : Duration) (c : Config) :
    s.length (s.give d c) = some (.ofMillis (millis d)) := by
  cases s <;> rfl

/-- The member of the setting is put in its place, and the other members stay. -/
theorem members_give (s : TimeSetting) (d : Duration) (c : Config) :
    (s.give d c).members =
      c.members.map fun m => if m.1 = s.name then (s.name, wordJson (millis d)) else m := by
  cases s <;> simp [give, toChange, change, members, name, optionJson]

end TimeSetting

/-- The word keeps what is left of the milliseconds when it has gone round. -/
theorem toNat_millis (d : Duration) : (millis d).toNat = d.totalMillis % UInt64.size :=
  UInt64.toNat_ofNat'

/-- A setting of time gets the whole milliseconds of the length it is given, less the multiples of a
word, and no other setting changes. That is the length rounded down, and at most what a word holds,
exactly for lengths whose milliseconds fit the word or leave the largest word. Among the lengths
that fit, a longer one makes the setting no shorter. -/
theorem time_settings_keep_milliseconds (c : Config) (s : TimeSetting) (d : Duration) :
    (∃ e, s.length (s.give d c) = some e ∧
      e.totalNanos = d.totalMillis % UInt64.size * 1000000 ∧
      (e = d.capped ↔
        d.totalMillis < UInt64.size ∨ d.totalMillis % UInt64.size = UInt64.size - 1) ∧
      ∀ longer : Duration, d.totalNanos ≤ longer.totalNanos → longer.totalMillis < UInt64.size →
        ∃ e', s.length (s.give longer c) = some e' ∧ e.totalNanos ≤ e'.totalNanos) ∧
    (s.give d c).members = c.members.map fun m =>
      if m.1 = s.name then (s.name, .int (d.totalMillis % UInt64.size : Nat)) else m := by
  have hkept (d : Duration) :
      (Duration.ofMillis (millis d)).totalNanos = d.totalMillis % UInt64.size * 1000000 := by
    rw [Duration.totalNanos_ofMillis, toNat_millis]
  have hsize : UInt64.size = 18446744073709551616 := rfl
  refine ⟨⟨_, s.length_give d c, hkept d, ?_, fun longer hle hfits => ?_⟩, ?_⟩
  · rw [← Duration.totalNanos_inj, hkept, Duration.totalNanos_capped, hsize]
    omega
  · refine ⟨_, s.length_give longer c, ?_⟩
    have hmillis : d.totalMillis ≤ longer.totalMillis := Nat.div_le_div_right hle
    rw [hkept, hkept, Nat.mod_eq_of_lt hfits, Nat.mod_eq_of_lt (Nat.lt_of_le_of_lt hmillis hfits)]
    exact Nat.mul_le_mul_right _ hmillis
  · rw [s.members_give, wordJson, toNat_millis]

/-- More than five hundred million years for a statement leave it less than half a second, where one
second would leave it a whole one. -/
theorem longTimeout_is_short :
    let long : Duration := .ofNanos (18446744073709552 * 1000000000)
    let second : Duration := .ofNanos 1000000000
    let s := TimeSetting.statementTimeout
    s.length (s.give long {}) = some (.ofMillis 384) ∧ long.capped ≠ .ofMillis 384 ∧
      s.length (s.give second {}) = some (.ofMillis 1000) := by
  refine ⟨rfl, ?_, rfl⟩
  decide

end Config

end SqlAccess
