/-!
# Durations

A duration is a whole number of seconds in 64 bits and a fraction in nanoseconds.
-/

namespace Courier

/-- A duration. -/
structure Duration where
  /-- The whole seconds. -/
  seconds : UInt64
  /-- The nanoseconds of the fraction of a second. -/
  nanos : Fin 1000000000
  deriving DecidableEq, Repr

namespace Duration

/-- The whole milliseconds of a duration. -/
def millis (d : Duration) : Nat := d.seconds.toNat * 1000 + d.nanos.val / 1000000

/-- The duration of a number of milliseconds. -/
def ofMillis (ms : UInt64) : Duration :=
  ⟨ms / 1000, Fin.ofNat 1000000000 ((ms % 1000).toNat * 1000000)⟩

/-- The whole milliseconds of a number of milliseconds. -/
theorem millis_ofMillis (ms : UInt64) : (ofMillis ms).millis = ms.toNat := by
  simp only [millis, ofMillis, Fin.ofNat, UInt64.toNat_div, UInt64.toNat_mod, UInt64.reduceToNat]
  omega

end Duration

end Courier
