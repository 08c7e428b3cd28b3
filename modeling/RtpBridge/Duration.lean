-- SUMMARY: Spans of time, in seconds and nanoseconds.

/-!
# Durations

A duration is kept in whole seconds and the nanoseconds that are left over. Settings
are given in milliseconds, and errors tell them in milliseconds.
-/

namespace RtpBridge

structure Duration where
  seconds : UInt64
  nanos : UInt32
  nanos_lt : nanos.toNat < 1000000000
deriving Repr, DecidableEq

namespace Duration

theorem toNat_nanos_ofMillis (ms : UInt64) :
    ((ms % 1000).toUInt32 * 1000000).toNat = ms.toNat % 1000 * 1000000 := by
  have hrest : (ms % 1000).toNat = ms.toNat % 1000 := UInt64.toNat_mod ms 1000
  have hmilli : (1000000 : UInt32).toNat = 1000000 := rfl
  rw [UInt32.toNat_mul, UInt64.toNat_toUInt32, hrest, hmilli]
  omega

def ofMillis (ms : UInt64) : Duration where
  seconds := ms / 1000
  nanos := (ms % 1000).toUInt32 * 1000000
  nanos_lt := by
    rw [toNat_nanos_ofMillis]
    omega

/-- The whole milliseconds, which may be more than 64 bits can tell. -/
def toMillis (d : Duration) : Nat := d.seconds.toNat * 1000 + d.nanos.toNat / 1000000

def toNanos (d : Duration) : Nat := d.seconds.toNat * 1000000000 + d.nanos.toNat

end Duration

end RtpBridge
