import WindowHost.Time

/-!
# Clocks

A `Clock` reads and passes time in a world. `Manual` is a world that is nothing but such a clock,
one that moves only when told to.
-/

namespace WindowHost.Pacing

/-- A source of time in a world `W`. -/
structure Clock (W : Type) where
  now : W → Instant
  /-- Lets time pass up to the deadline. -/
  sleepUntil : Instant → W → W

/-- A clock that moves when it is told to, and wakes late by a fixed time. -/
structure Manual where
  now : Instant := 0
  /-- How much later than its deadline a sleep ends. -/
  oversleep : Int := 0
  /-- The deadlines of the sleeps so far, the latest first. -/
  deadlines : List Instant := []
  deriving DecidableEq, Repr

namespace Manual

/-- Sleeping moves the clock past a deadline ahead of it and never moves it back. -/
def sleepUntil (deadline : Instant) (m : Manual) : Manual :=
  { m with
    now := if m.now < deadline then max m.now (deadline + m.oversleep) else m.now
    deadlines := deadline :: m.deadlines }

/-- The clock moves by itself. -/
def advance (m : Manual) (by' : Int) : Manual := { m with now := m.now + by' }

def clock : Clock Manual := ⟨Manual.now, sleepUntil⟩

end Manual

end WindowHost.Pacing
