import WindowHost.Proofs.Credit

/-!
# The overshoot on any clock

Over exact numbers, the overshoot of a pacer stays between half a nanosecond below zero and half a
nanosecond above the longest oversleep, whatever the limits are and wherever the clock jumps between
two frames (`Turns`). A frame that sleeps leaves what its own sleep took too long, and a late frame
leaves less than it found. So a target is hardly longer than a period, and no sleep is asked for
that would end before the last frame.
-/

namespace WindowHost

theorem le_of_inMillis_le_add {x y : Int} (h : inMillis x ≤ inMillis y + inMillis 1 / 2) :
    x ≤ y := by
  have hhalf : (x : Rat) ≤ y + 1 / 2 := by
    unfold inMillis at h
    push_cast at h
    linarith
  have hlt : (x : Rat) < (y + 1 : Int) := by
    push_cast
    linarith
  have hint : x < y + 1 := by exact_mod_cast hlt
  omega

/-- So many seconds are a length of time that fits into whole seconds of 64 bits. -/
def Duration.Admits (seconds : Rat) : Prop := 0 ≤ seconds ∧ seconds < 2 ^ 64

namespace Pacing

variable {W : Type} {c : Clock W} {bound : Rat}

/-! ## Sleeping -/

/-- A sleep ends neither before it began nor before its deadline, and so many milliseconds after the
later of the two at most. -/
def Clock.RisesWithin (c : Clock W) (bound : Rat) (deadline : Instant) (w : W) : Prop :=
  max (c.now w) deadline ≤ c.now (c.sleepUntil deadline w) ∧
    inMillis (c.now (c.sleepUntil deadline w) - max (c.now w) deadline) ≤ bound

instance (c : Clock W) (bound : Rat) (deadline : Instant) (w : W) :
    Decidable (c.RisesWithin bound deadline w) :=
  inferInstanceAs (Decidable (_ ∧ _))

theorem Clock.RisesWithin.wakesWithin {deadline : Instant} {w : W}
    (h : c.RisesWithin bound deadline w) (hahead : c.now w ≤ deadline) :
    c.WakesWithin bound deadline w := by
  unfold Clock.RisesWithin at h
  rwa [max_eq_right hahead] at h

namespace Pacer

variable {limit : UInt32} {p p' : Pacer Rat} {w w' : W} {target actual : Rat}

theorem period_le (limit : UInt32) : (period limit : Rat) ≤ 1000 := by
  have hone : (1 : Rat) ≤ (max limit.toNat 1 : Nat) := by exact_mod_cast le_max_right _ _
  rw [period_eq_div_max]
  exact div_le_self (by norm_num) hone

/-- The pacer never sleeps until an instant that has passed. The time since the last frame is a
whole number of nanoseconds, so rounding the target does not bring it below that time. -/
theorem now_le_deadline (h : p.pace c limit w = (.slept target actual, p', w')) :
    c.now w ≤ p.deadline (p.target limit) := by
  by_cases hlast : p.lastFrame ≤ c.now w
  · obtain ⟨hle, -⟩ := pace_slept h
    rw [Instant.milliseconds_since hlast] at hle
    have hintime : inMillis (c.now w - p.lastFrame) ≤ p.target limit := of_decide_eq_true hle
    obtain ⟨hlow, -⟩ := abs_le.1 (p.abs_deadline_sub_le (target_nonneg_of_slept h))
    have hnanos : c.now w - p.lastFrame ≤ p.deadline (p.target limit) - p.lastFrame :=
      le_of_inMillis_le_add (by linarith)
    exact (sub_le_sub_iff_right p.lastFrame).1 hnanos
  · -- the clock went back to before the last frame
    exact (not_le.1 hlast).le.trans (p.lastFrame_le_deadline _)

end Pacer

/-! ## One frame -/

/-- The end of a frame: the limit, the pacer and the world before it, and what has come of them. -/
structure Turn (W : Type) where
  limit : UInt32
  before : Pacer Rat
  start : W
  outcome : Outcome Rat
  after : Pacer Rat
  finish : W

/-- The end of a frame in a world. -/
def Pacer.turn (p : Pacer Rat) (c : Clock W) (limit : UInt32) (w : W) : Turn W :=
  ⟨limit, p, w, (p.pace c limit w).1, (p.pace c limit w).2.1, (p.pace c limit w).2.2⟩

namespace Turn

/-- The overshoot is at least half a nanosecond below zero, and at most half a nanosecond above the
bound. -/
def Holds (bound overshoot : Rat) : Prop :=
  -(inMillis 1 / 2) ≤ overshoot ∧ overshoot ≤ bound + inMillis 1 / 2

/-- How long a frame should take, in milliseconds. -/
def target (t : Turn W) : Rat := t.before.target t.limit

/-- The instant until which a frame sleeps. -/
def deadline (t : Turn W) : Instant := t.before.deadline t.target

/-- What is true of every end of a frame, where sleeps are too long by the bound at most. -/
structure Bounded (c : Clock W) (bound : Rat) (t : Turn W) : Prop where
  overshoot : Holds bound t.after.overshoot
  lastFrame : t.after.lastFrame = c.now t.finish
  target_le : t.target ≤ 1000 / (max t.limit.toNat 1 : Nat) + inMillis 1 / 2
  /-- The target of a sleep can be made a duration as it is. -/
  admits : t.outcome.isLate = false → Duration.Admits (t.target / 1000)
  unclamped : t.outcome.isLate = false →
    t.deadline = t.before.lastFrame + (Duration.ofSeconds (t.target / 1000) : Duration)
  deadline_le : t.outcome.isLate = false →
    inMillis (t.deadline - t.before.lastFrame) ≤
      1000 / (max t.limit.toNat 1 : Nat) + inMillis 1

theorem holds_zero (hbound : 0 ≤ bound) : Holds bound 0 := by
  have hpos := Stint.inMillis_one_pos
  constructor <;> linarith

/-- A frame keeps the overshoot within its bounds, whatever it has done. -/
theorem Holds.left {t : Stint} {period : Rat} (h : Holds bound t.credit) (hbound : 0 ≤ bound)
    (hobeys : t.Obeys period bound) : Holds bound t.left :=
  ⟨hobeys.le_left h.1, hobeys.left_le hbound h.2⟩

end Turn

namespace Pacer

variable {p : Pacer Rat} {limit : UInt32} {w : W}

theorem isLate_turn_eq_false_iff :
    (p.turn c limit w).outcome.isLate = false ↔
      ∃ target actual p' w', p.pace c limit w = (.slept target actual, p', w') := by
  unfold turn
  rcases p.pace c limit w with ⟨⟨target, actual⟩ | elapsed, p', w'⟩
  · exact ⟨fun _ => ⟨_, _, _, _, rfl⟩, fun _ => rfl⟩
  · constructor
    · nofun
    · rintro ⟨_, _, _, _, h⟩
      cases h

theorem target_le (limit : UInt32) (h : Turn.Holds bound p.overshoot) :
    p.target limit ≤ period limit + inMillis 1 / 2 := by
  have hlow := h.1
  show period limit - p.overshoot ≤ _
  linarith

/-- A frame that sleeps has a target between nothing and a second, within half a nanosecond. -/
theorem admits_target (h : Turn.Holds bound p.overshoot) (htarget : 0 ≤ p.target limit) :
    Duration.Admits (p.target limit / 1000) := by
  have hlong := target_le limit h
  have hperiod := period_le limit
  have hnano : inMillis 1 / 2 ≤ 1000 := by norm_num [inMillis]
  constructor
  · exact div_nonneg htarget (by norm_num)
  · rw [div_lt_iff₀ (by norm_num)]
    calc p.target limit ≤ 1000 + 1000 := by linarith
      _ < 2 ^ 64 * 1000 := by norm_num

theorem deadline_sub_le (h : Turn.Holds bound p.overshoot) (htarget : 0 ≤ p.target limit) :
    inMillis (p.deadline (p.target limit) - p.lastFrame) ≤ period limit + inMillis 1 := by
  obtain ⟨-, hhigh⟩ := abs_le.1 (p.abs_deadline_sub_le htarget)
  have hlong := target_le limit h
  linarith

/-- The end of a frame keeps the overshoot within its bounds, and all that follows from them. -/
theorem turn_bounded (hbound : 0 ≤ bound) (h : Turn.Holds bound p.overshoot)
    (hrise : (p.turn c limit w).outcome.isLate = false →
      c.RisesWithin bound (p.deadline (p.target limit)) w) :
    (p.turn c limit w).Bounded c bound := by
  have htarget : (p.turn c limit w).outcome.isLate = false → 0 ≤ p.target limit := by
    intro hslept
    obtain ⟨_, _, _, _, hpace⟩ := isLate_turn_eq_false_iff.1 hslept
    exact target_nonneg_of_slept hpace
  have hwake : (p.turn c limit w).outcome.isLate = false →
      c.WakesWithin bound (p.deadline (p.target limit)) w := by
    intro hslept
    obtain ⟨_, _, _, _, hpace⟩ := isLate_turn_eq_false_iff.1 hslept
    exact (hrise hslept).wakesWithin (now_le_deadline hpace)
  have hpace : p.pace c limit w = ((p.turn c limit w).outcome, (p.turn c limit w).after,
      (p.turn c limit w).finish) := rfl
  obtain ⟨hends, hleft, hobeys⟩ := pace_leaves hpace hwake
  have hperiod := period_eq_div_max limit
  exact {
    overshoot := hleft ▸ Turn.Holds.left h hbound hobeys
    lastFrame := hends
    target_le := (target_le limit h).trans_eq (by rw [hperiod]; rfl)
    admits := fun hslept => admits_target h (htarget hslept)
    unclamped := fun hslept => p.deadline_eq (htarget hslept)
    deadline_le := fun hslept =>
      (deadline_sub_le h (htarget hslept)).trans_eq (by rw [hperiod]; rfl) }

end Pacer

/-! ## A run of frames -/

/-- The frames of a fresh pacer, each at a limit of its own. Between two frames the world becomes
any other, so the clock may jump anywhere. No sleep ends outside the bound. -/
inductive Turns (c : Clock W) (bound : Rat) : List (Turn W) → Pacer Rat → Prop where
  | start (w) : Turns c bound [] (Pacer.start (c.now w))
  | next {turns p} (limit w) : Turns c bound turns p →
      ((p.turn c limit w).outcome.isLate = false →
        c.RisesWithin bound (p.deadline (p.target limit)) w) →
      Turns c bound (turns ++ [p.turn c limit w]) (p.turn c limit w).after

namespace Turns

variable {turns : List (Turn W)} {p : Pacer Rat}

theorem holds (h : Turns c bound turns p) (hbound : 0 ≤ bound) : Turn.Holds bound p.overshoot := by
  induction h with
  | start w =>
    have hfresh : (Pacer.start (c.now w) : Pacer Rat).overshoot = 0 := Nat.cast_zero
    rw [hfresh]
    exact Turn.holds_zero hbound
  | next limit w _ hrise ih => exact (Pacer.turn_bounded hbound ih hrise).overshoot

end Turns

/-- The overshoot stays bounded on any clock. For all limits, zero among them, and however the clock
jumps between two frames, each frame leaves an overshoot between half a nanosecond below zero and
half a nanosecond above the longest oversleep, and the instant at which it ends. No target is more
than half a nanosecond longer than a period. The target of a sleep is never below zero and is made a
duration as it is, and its deadline is a period and a nanosecond after the last frame at most. -/
theorem overshoot_bounded {turns : List (Turn W)} {p : Pacer Rat} (hbound : 0 ≤ bound)
    (h : Turns c bound turns p) : ∀ t ∈ turns, t.Bounded c bound := by
  induction h with
  | start w => nofun
  | next limit w h hrise ih =>
    have hlast := Pacer.turn_bounded hbound (h.holds hbound) hrise
    exact List.forall_mem_append.2 ⟨ih, List.forall_mem_singleton.2 hlast⟩

/-- A clock at such an instant, on which every sleep ends three milliseconds late. -/
def drowsyAt (now : Int) : Manual := { now, oversleep := 3000000 }

/-- After a frame in time, the clock goes back by a second, and a frame at a limit of zero is in
time again. After eleven seconds more, a frame is late. The clock goes back once more, and the
highest limit has a target below zero. -/
theorem overshoot_bounded_stumble :
    ∃ turns : List (Turn Manual), turns.map (fun t => (t.limit, t.outcome.isLate)) =
        [(60, false), (0, false), (144, true), (4294967295, true)] ∧
      ∀ t ∈ turns, t.Bounded Manual.clock 3 := by
  have h₀ : Turns Manual.clock 3 [] (Pacer.start 0) := .start (drowsyAt 0)
  have h₁ := h₀.next 60 (drowsyAt 5000000) (by decide +kernel)
  have h₂ := h₁.next 0 (drowsyAt (-1000000000)) (by decide +kernel)
  have h₃ := h₂.next 144 (drowsyAt 10000000000) (by decide +kernel)
  have h₄ := h₃.next 4294967295 (drowsyAt 0) (by decide +kernel)
  exact ⟨_, by decide +kernel, overshoot_bounded (by norm_num) h₄⟩

end Pacing

end WindowHost
