/-!
# Durations

A duration is whole seconds and nanoseconds. An engine takes a number of milliseconds in 32 bits:
what is below a millisecond is dropped, and what does not fit becomes the greatest number that does.
-/

namespace Switchboard

/-- A span of time. -/
structure Duration where
  seconds : UInt64
  nanos : UInt32
  nanos_lt : nanos.toNat < 1000000000 := by decide
  deriving DecidableEq

namespace Duration

/-- All of a duration in nanoseconds. -/
def totalNanos (d : Duration) : Nat :=
  d.seconds.toNat * 1000000000 + d.nanos.toNat

/-- The whole milliseconds of a duration. -/
def millis (d : Duration) : Nat :=
  d.seconds.toNat * 1000 + d.nanos.toNat / 1000000

/-- The timeout that an engine is given. -/
def timeout (d : Duration) : UInt32 :=
  if d.millis < UInt32.size then UInt32.ofNat d.millis else UInt32.ofNat (UInt32.size - 1)

/-- The duration of a number of milliseconds. -/
def ofMillis (n : UInt64) : Duration where
  seconds := n / 1000
  nanos := UInt32.ofNat (n.toNat % 1000 * 1000000)
  nanos_lt := by
    have h : n.toNat % 1000 < 1000 := Nat.mod_lt _ (by decide)
    rw [UInt32.toNat_ofNat']
    exact Nat.lt_of_le_of_lt (Nat.mod_le _ _) (by omega)

end Duration

end Switchboard
