import WindowHost.Pacing.Clock

/-!
# Frame pacing

A `Pacer` keeps the time between frames near a target. `Pacer.pace` sleeps for the rest of a period
less the `overshoot`, by which the last sleep took too long, and measures the overshoot again. A
frame that comes late does not sleep, and shrinks the correction instead of dropping it.
-/

namespace WindowHost.Pacing

/-- What a step of pacing did, in milliseconds. -/
inductive Outcome (α : Type) where
  | slept (target actual : α)
  | late (elapsed : α)

/-- When the last frame ended, and the milliseconds by which it was too long. -/
structure Pacer (α : Type) where
  lastFrame : Instant
  overshoot : α

namespace Pacer

variable {α W : Type} [Scalar α]

/-- A pacer that starts to count at that instant. -/
def start (now : Instant) : Pacer α := ⟨now, Scalar.ofNat 0⟩

/-- The length of a frame at that many frames in a second, where none counts as one. -/
def period (limit : UInt32) : α := Scalar.ofNat 1000 / Scalar.ofNat (max limit.toNat 1)

/-- How long the frame should take, in milliseconds. -/
def target (p : Pacer α) (limit : UInt32) : α := period limit - p.overshoot

/-- The instant that lies the target after the last frame. A target below zero counts as zero. -/
def deadline (p : Pacer α) (target : α) : Instant :=
  let positive := if Scalar.le (Scalar.ofNat 0) target then target else Scalar.ofNat 0
  p.lastFrame + (Duration.ofSeconds (positive / Scalar.ofNat 1000) : Duration)

/-- What is left of the overshoot after a late frame: nine parts in ten. -/
def decayed (overshoot : α) : α := overshoot * (Scalar.ofNat 9 / Scalar.ofNat 10)

/-- Ends a frame: sleeps until the target is reached, unless it has passed. -/
def pace (clock : Clock W) (p : Pacer α) (limit : UInt32) (w : W) : Outcome α × Pacer α × W :=
  let target := p.target limit
  let now := clock.now w
  let elapsed : α := Duration.milliseconds (Instant.since now p.lastFrame)
  if Scalar.le elapsed target then
    let w := clock.sleepUntil (p.deadline target) w
    let after := clock.now w
    let actual : α := Duration.milliseconds (Instant.since after p.lastFrame)
    (.slept target actual, ⟨after, actual - target⟩, w)
  else (.late elapsed, ⟨now, decayed p.overshoot⟩, w)

end Pacer

end WindowHost.Pacing
