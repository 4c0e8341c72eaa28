import WindowHost.Time

/-!
# Frame rate

A `Rate` counts frames and reports about once a second how many there were in a second, on average
over all frames since the report before.
-/

namespace WindowHost.Pacing

/-- The frames since the last report. -/
structure Rate where
  lastReport : Instant
  /-- Their number wraps around. -/
  frames : UInt32
  deriving DecidableEq, Repr

namespace Rate

def start (now : Instant) : Rate := ⟨now, 0⟩

/-- Counts a frame, and reports the average when a second has passed. -/
def tick {α : Type} [Scalar α] (r : Rate) (now : Instant) : Option α × Rate :=
  let frames := r.frames + 1
  let elapsed := Instant.since now r.lastReport
  if elapsed < nanosPerSecond then (none, { r with frames })
  else (some (Scalar.ofNat frames.toNat / Duration.seconds elapsed), ⟨now, 0⟩)

end Rate

end WindowHost.Pacing
