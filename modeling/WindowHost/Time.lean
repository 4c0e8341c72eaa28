import WindowHost.Number.Rounding
import WindowHost.Number.Scalar

/-!
# Instants and durations

Time is counted in whole nanoseconds. `Instant.since` is the time that has passed between two
readings of a clock, never negative. `Duration.seconds` and `Duration.milliseconds` read a duration
as a number, and `Duration.ofSeconds` rounds a number back to nanoseconds.
-/

namespace WindowHost

/-- A reading of a clock, in nanoseconds from the origin of that clock. -/
abbrev Instant := Int

/-- A length of time in nanoseconds. -/
abbrev Duration := Nat

def nanosPerSecond : Nat := 1000000000

/-- The time from `earlier` to `later`, zero when the clock went backwards. -/
def Instant.since (later earlier : Instant) : Duration := (later - earlier).toNat

namespace Duration

variable {α : Type} [Scalar α]

/-- A duration in seconds: the whole seconds plus the rest. -/
def seconds (d : Duration) : α :=
  Scalar.ofNat (d / nanosPerSecond) +
    Scalar.ofNat (d % nanosPerSecond) / Scalar.ofNat nanosPerSecond

def milliseconds (d : Duration) : α := seconds d * Scalar.ofNat 1000

/-- The whole nanoseconds nearest to `x` seconds, ties to even. -/
def ofSeconds (x : α) : Duration :=
  (roundHalfEven (Scalar.exact x * (nanosPerSecond : Rat))).toNat

end Duration

end WindowHost
