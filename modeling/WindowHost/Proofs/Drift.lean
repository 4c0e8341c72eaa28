import Mathlib.Data.List.Chain
import Mathlib.Data.Rat.Floor
import Mathlib.Tactic.Linarith
import Mathlib.Tactic.Ring
import WindowHost.Pacing.Pacer

/-!
# Pacing without drift

Over exact numbers, a pacer that is never late ends its `n`th frame `n` periods after its start, but
for what the last sleep took too long and half a nanosecond. Each deadline is rounded to
nanoseconds, and each sleep ends late by some time (`Clock.Oversleeps`). Both are in the overshoot
that the next target takes off, so over the frames of a run (`Laps`) they do not add up.
-/

namespace WindowHost

/-! ## Nanoseconds as numbers -/

/-- A span of nanoseconds in milliseconds. -/
def inMillis (nanos : Int) : Rat := nanos / 1000000

theorem inMillis_add (x y : Int) : inMillis (x + y) = inMillis x + inMillis y := by
  unfold inMillis
  push_cast
  ring

theorem inMillis_sub (x y : Int) : inMillis (x - y) = inMillis x - inMillis y := by
  unfold inMillis
  push_cast
  ring

theorem inMillis_le {x y : Int} (h : x ≤ y) : inMillis x ≤ inMillis y := by
  have hcast : (x : Rat) ≤ y := by exact_mod_cast h
  unfold inMillis
  linarith

theorem inMillis_zero : inMillis 0 = 0 := by
  rw [inMillis, Int.cast_zero, zero_div]

theorem abs_roundHalfEven_sub_le (x : Rat) : |(roundHalfEven x : Rat) - x| ≤ 1 / 2 := by
  have hlow : (x.floor : Rat) ≤ x := Rat.floor_le x
  have hhigh : x - 1 < x.floor := Rat.lt_floor
  have hparity : (0 : Rat) ≤ (x.floor % 2 : Int) := by
    exact_mod_cast Int.emod_nonneg x.floor (by decide)
  have hparity' : ((x.floor % 2 : Int) : Rat) ≤ 1 := by
    exact_mod_cast (show x.floor % 2 ≤ 1 by omega)
  rw [abs_le]
  unfold roundHalfEven
  dsimp only
  split
  · constructor <;> linarith
  · split <;> push_cast <;> constructor <;> linarith

theorem roundHalfEven_nonneg {x : Rat} (hx : 0 ≤ x) : 0 ≤ roundHalfEven x := by
  have hlow : 0 ≤ x.floor := Rat.le_floor_iff.2 (by exact_mod_cast hx)
  have hparity : 0 ≤ x.floor % 2 := Int.emod_nonneg x.floor (by decide)
  unfold roundHalfEven
  dsimp only
  split
  · exact hlow
  · split <;> omega

/-- A span of nanoseconds in seconds. -/
def inSeconds (nanos : Int) : Rat := nanos / 1000000000

theorem Duration.seconds_eq (d : Duration) : (d.seconds : Rat) = inSeconds d := by
  have hparts : ((nanosPerSecond * (d / nanosPerSecond) + d % nanosPerSecond : Nat) : Rat) = d :=
    congrArg Nat.cast (Nat.div_add_mod d nanosPerSecond)
  show (d / nanosPerSecond : Nat) + ((d % nanosPerSecond : Nat) : Rat) / (nanosPerSecond : Nat) =
    ((d : Int) : Rat) / 1000000000
  rw [Int.cast_natCast, ← hparts]
  push_cast [nanosPerSecond]
  ring

theorem Duration.milliseconds_eq (d : Duration) : (d.milliseconds : Rat) = inMillis d := by
  show (d.seconds : Rat) * ((1000 : Nat) : Rat) = inMillis d
  rw [d.seconds_eq, inSeconds, inMillis]
  push_cast
  ring

theorem Instant.milliseconds_since {earlier later : Instant} (h : earlier ≤ later) :
    ((Instant.since later earlier).milliseconds : Rat) = inMillis (later - earlier) := by
  rw [Duration.milliseconds_eq, Instant.since, Int.toNat_of_nonneg (Int.sub_nonneg.2 h)]

theorem Instant.seconds_since {earlier later : Instant} (h : earlier ≤ later) :
    ((Instant.since later earlier).seconds : Rat) = inSeconds (later - earlier) := by
  rw [Duration.seconds_eq, Instant.since, Int.toNat_of_nonneg (Int.sub_nonneg.2 h)]

/-- A number of milliseconds is half a nanosecond from the duration it is rounded to, at most. -/
theorem Duration.abs_ofSeconds_sub_le {x : Rat} (hx : 0 ≤ x) :
    |inMillis (Duration.ofSeconds (x / 1000) : Duration) - x| ≤ inMillis 1 / 2 := by
  have hnanos : x / 1000 * (nanosPerSecond : Nat) = x * 1000000 := by
    push_cast [nanosPerSecond]
    ring
  have hrounded : ((Duration.ofSeconds (x / 1000) : Nat) : Int) = roundHalfEven (x * 1000000) := by
    show ((roundHalfEven (x / 1000 * (nanosPerSecond : Nat))).toNat : Int) = _
    rw [hnanos, Int.toNat_of_nonneg (roundHalfEven_nonneg (by linarith))]
  have hclose := abs_le.1 (abs_roundHalfEven_sub_le (x * 1000000))
  rw [hrounded, abs_le]
  unfold inMillis
  push_cast
  constructor <;> linarith

namespace Pacing

variable {W : Type}

/-! ## One frame -/

namespace Pacer

variable {α : Type} [Scalar α] {c : Clock W} {limit : UInt32} {p p' : Pacer α} {w w' : W}
  {target actual : α}

/-- What a frame that was in time has done. -/
theorem pace_slept (h : p.pace c limit w = (.slept target actual, p', w')) :
    Scalar.le (Duration.milliseconds (Instant.since (c.now w) p.lastFrame))
        (p.target limit) = true ∧
      w' = c.sleepUntil (p.deadline (p.target limit)) w ∧
      target = p.target limit ∧
      actual = Duration.milliseconds (Instant.since (c.now w') p.lastFrame) ∧
      p' = ⟨c.now w', actual - target⟩ := by
  unfold pace at h
  dsimp only at h
  split at h
  · next hle =>
    cases h
    exact ⟨hle, rfl, rfl, rfl, rfl⟩
  · cases h

theorem pace_of_le
    (h : Scalar.le (Duration.milliseconds (Instant.since (c.now w) p.lastFrame))
      (p.target limit) = true) :
    ∃ target actual, p.pace c limit w = (.slept target actual, (p.pace c limit w).2) := by
  unfold pace
  dsimp only
  rw [if_pos h]
  exact ⟨_, _, rfl⟩

end Pacer

/-- Sleeping until the deadline ends so many nanoseconds after it. When it has passed, nothing
moves. -/
def Clock.Oversleeps (c : Clock W) (deadline : Instant) (w : W) (late : Nat) : Prop :=
  if c.now w < deadline then c.now (c.sleepUntil deadline w) = deadline + late
  else c.now (c.sleepUntil deadline w) = c.now w ∧ late = 0

instance (c : Clock W) (deadline : Instant) (w : W) (late : Nat) :
    Decidable (c.Oversleeps deadline w late) :=
  inferInstanceAs (Decidable (if c.now w < deadline then
    c.now (c.sleepUntil deadline w) = deadline + late
    else c.now (c.sleepUntil deadline w) = c.now w ∧ late = 0))

section Sleep

variable {c : Clock W} {limit : UInt32} {p p' : Pacer Rat} {w w' : W} {target actual : Rat}
  {deadline : Instant} {late : Nat}

theorem Clock.Oversleeps.now_le (h : c.Oversleeps deadline w late) :
    c.now w ≤ c.now (c.sleepUntil deadline w) := by
  unfold Clock.Oversleeps at h
  split at h
  · next hahead =>
    rw [h]
    exact hahead.le.trans (Int.le_add_of_nonneg_right (Int.natCast_nonneg late))
  · rw [h.1]

theorem Pacer.period_eq_div_max (limit : UInt32) :
    (Pacer.period limit : Rat) = 1000 / (max limit.toNat 1 : Nat) := by
  show ((1000 : Nat) : Rat) / ((max limit.toNat 1 : Nat) : Rat) = _
  norm_num

theorem Pacer.period_eq (hlimit : 1 ≤ limit.toNat) :
    (Pacer.period limit : Rat) = 1000 / limit.toNat := by
  rw [Pacer.period_eq_div_max, max_eq_left hlimit]

/-- A target that is not below zero is taken as it is. -/
theorem Pacer.deadline_eq (p : Pacer Rat) (htarget : 0 ≤ target) :
    p.deadline target = p.lastFrame + (Duration.ofSeconds (target / 1000) : Duration) := by
  have hle : Scalar.le (Scalar.ofNat 0 : Rat) target = true :=
    decide_eq_true (by exact_mod_cast htarget)
  rw [Pacer.deadline, if_pos hle]
  rfl

theorem Pacer.abs_deadline_sub_le (p : Pacer Rat) (htarget : 0 ≤ target) :
    |inMillis (p.deadline target - p.lastFrame) - target| ≤ inMillis 1 / 2 := by
  rw [p.deadline_eq htarget, add_sub_cancel_left]
  exact Duration.abs_ofSeconds_sub_le htarget

/-- A sleep within the target takes longer than the target by what it oversleeps, within half a
nanosecond. -/
theorem Pacer.abs_overslept_sub_le (hlast : p.lastFrame ≤ c.now w)
    (hintime : inMillis (c.now w - p.lastFrame) ≤ target)
    (hlate : c.Oversleeps (p.deadline target) w late) :
    |inMillis (c.now (c.sleepUntil (p.deadline target) w) - p.lastFrame) - target - inMillis late| ≤
      inMillis 1 / 2 := by
  have helapsed : 0 ≤ inMillis (c.now w - p.lastFrame) := by
    rw [← inMillis_zero]
    exact inMillis_le (Int.sub_nonneg.2 hlast)
  obtain ⟨hlow, hhigh⟩ := abs_le.1 (p.abs_deadline_sub_le (helapsed.trans hintime))
  unfold Clock.Oversleeps at hlate
  split at hlate
  · rw [hlate, add_sub_right_comm, inMillis_add, abs_le]
    constructor <;> linarith
  · next hpassed =>
    -- the deadline has passed by rounding alone, so it is close to now
    obtain ⟨hstays, rfl⟩ := hlate
    have hreached := inMillis_le (Int.sub_le_sub_right (Int.not_lt.1 hpassed) p.lastFrame)
    rw [hstays, Int.natCast_zero, inMillis_zero, abs_le]
    constructor <;> linarith

/-- A frame that was in time lasts a period, without the overshoot before it and with its own. Its
own is what its sleep took too long, within half a nanosecond. -/
theorem Pacer.slept_lasts (hlast : p.lastFrame ≤ c.now w)
    (h : p.pace c limit w = (.slept target actual, p', w'))
    (hlate : c.Oversleeps (p.deadline (p.target limit)) w late) :
    p'.lastFrame = c.now w' ∧
      inMillis (p'.lastFrame - p.lastFrame) = Pacer.period limit - p.overshoot + p'.overshoot ∧
      |p'.overshoot - inMillis late| ≤ inMillis 1 / 2 := by
  obtain ⟨hle, rfl, rfl, rfl, rfl⟩ := Pacer.pace_slept h
  rw [Instant.milliseconds_since hlast] at hle
  have hclose := Pacer.abs_overslept_sub_le hlast (of_decide_eq_true hle) hlate
  have hactual := Instant.milliseconds_since (hlast.trans hlate.now_le)
  have htarget : p.target limit = Pacer.period limit - p.overshoot := rfl
  rw [hactual]
  refine ⟨rfl, ?_, hclose⟩
  show _ = _ + (inMillis _ - p.target limit)
  rw [htarget]
  ring

end Sleep

/-! ## A run of frames -/

/-- How long a frame was, and how much later than its deadline its sleep ended, in nanoseconds. -/
structure Lap where
  length : Int
  late : Nat
  deriving DecidableEq, Repr

/-- The frames of a pacer that was started at an instant, at one limit, if all were in time. Before
the end of each frame, some time passes. -/
inductive Laps (c : Clock W) (limit : UInt32) : Instant → List Lap → Pacer Rat → W → Prop where
  | start (w) : Laps c limit (c.now w) [] (Pacer.start (c.now w)) w
  | next {since laps p w w₁ target actual p' w' late} : Laps c limit since laps p w →
      c.now w ≤ c.now w₁ → p.pace c limit w₁ = (.slept target actual, p', w') →
      c.Oversleeps (p.deadline (p.target limit)) w₁ late →
      Laps c limit since (laps ++ [⟨p'.lastFrame - p.lastFrame, late⟩]) p' w'

namespace Laps

variable {c : Clock W} {limit : UInt32} {since : Instant} {laps : List Lap} {p : Pacer Rat} {w : W}

/-- A run goes on with a frame that is in time. -/
theorem next_of_le (h : Laps c limit since laps p w) (w₁ : W) (late : Nat)
    (hwork : c.now w ≤ c.now w₁)
    (hle : Scalar.le (Duration.milliseconds (Instant.since (c.now w₁) p.lastFrame))
      (p.target limit) = true)
    (hlate : c.Oversleeps (p.deadline (p.target limit)) w₁ late) :
    Laps c limit since (laps ++ [⟨(p.pace c limit w₁).2.1.lastFrame - p.lastFrame, late⟩])
      (p.pace c limit w₁).2.1 (p.pace c limit w₁).2.2 := by
  obtain ⟨target, actual, hpace⟩ := Pacer.pace_of_le hle
  exact h.next hwork hpace hlate

theorem lastFrame_eq (h : Laps c limit since laps p w) : p.lastFrame = c.now w := by
  induction h with
  | start w => rfl
  | next _ hwork hpace hlate ih => exact (Pacer.slept_lasts (ih.trans_le hwork) hpace hlate).1

/-- What each frame takes off and adds cancels out. -/
theorem total_eq (h : Laps c limit since laps p w) :
    inMillis (p.lastFrame - since) = laps.length * Pacer.period limit + p.overshoot := by
  induction h with
  | start w =>
    show inMillis (c.now w - c.now w) = ((0 : Nat) : Rat) * _ + ((0 : Nat) : Rat)
    rw [Int.sub_self, inMillis_zero]
    push_cast
    ring
  | @next since laps p w w₁ target actual p' w' late h hwork hpace hlate ih =>
    -- the target of this frame takes off the overshoot that the frames before have left
    obtain ⟨-, hlength, -⟩ := Pacer.slept_lasts (h.lastFrame_eq.trans_le hwork) hpace hlate
    rw [inMillis_sub] at hlength ih ⊢
    rw [List.length_append, List.length_singleton]
    push_cast
    linarith

theorem abs_overshoot_sub_le (h : Laps c limit since laps p w) :
    ∀ lap ∈ laps.getLast?, |p.overshoot - inMillis lap.late| ≤ inMillis 1 / 2 := by
  intro lap hlap
  cases h with
  | start w => cases hlap
  | next h hwork hpace hlate =>
    rw [List.getLast?_concat] at hlap
    obtain rfl := Option.some.inj hlap
    exact (Pacer.slept_lasts (h.lastFrame_eq.trans_le hwork) hpace hlate).2.2

/-- A frame after another one lasts a period and what it oversleeps more than that one, within a
nanosecond. -/
theorem isChain (h : Laps c limit since laps p w) :
    laps.IsChain fun a b =>
      |inMillis b.length - (Pacer.period limit + inMillis b.late - inMillis a.late)| ≤
        inMillis 1 := by
  induction h with
  | start w => exact .nil
  | @next since laps p w w₁ target actual p' w' late h hwork hpace hlate ih =>
    obtain ⟨-, hlength, hclose⟩ := Pacer.slept_lasts (h.lastFrame_eq.trans_le hwork) hpace hlate
    refine List.isChain_append.2 ⟨ih, .singleton _, fun a ha b hb => ?_⟩
    obtain rfl := Option.some.inj hb
    obtain ⟨hlow, hhigh⟩ := abs_le.1 (h.abs_overshoot_sub_le a ha)
    obtain ⟨hlow', hhigh'⟩ := abs_le.1 hclose
    rw [abs_le]
    show _ ≤ inMillis (p'.lastFrame - p.lastFrame) - _ ∧
      inMillis (p'.lastFrame - p.lastFrame) - _ ≤ _
    constructor <;> linarith

/-- While all sleeps end equally late, every frame after the first lasts a period. -/
theorem abs_length_sub_le (h : Laps c limit since laps p w) {late : Nat}
    (hlate : ∀ lap ∈ laps, lap.late = late) :
    ∀ lap ∈ laps.tail, |inMillis lap.length - Pacer.period limit| ≤ inMillis 1 := by
  have hchain := h.isChain
  clear h
  induction hchain with
  | nil => nofun
  | singleton => nofun
  | @cons_cons a b laps hab _ ih =>
    rw [hlate a (.head _), hlate b (.tail _ (.head _)), add_sub_cancel_right] at hab
    exact List.forall_mem_cons.2 ⟨hab, ih fun lap hlap => hlate lap (.tail _ hlap)⟩

end Laps

/-- The limiter does not drift. After any number of frames that were all in time, the time since the
start is that many periods and the overshoot, which is what the last sleep took too long, within
half a nanosecond. Each frame after the first lasts a period and what its sleep took longer than the
sleep before it, within a nanosecond; so it lasts a period if all sleeps end equally late. -/
theorem limiter_without_drift {c : Clock W} {limit : UInt32} {since : Instant} {laps : List Lap}
    {p : Pacer Rat} {w : W} (hlimit : 1 ≤ limit.toNat) (h : Laps c limit since laps p w) :
    inMillis (p.lastFrame - since) = laps.length * (1000 / limit.toNat) + p.overshoot ∧
      (∀ lap ∈ laps.getLast?, |p.overshoot - inMillis lap.late| ≤ inMillis 1 / 2) ∧
      (laps.IsChain fun a b =>
        |inMillis b.length - (1000 / limit.toNat + inMillis b.late - inMillis a.late)| ≤
          inMillis 1) ∧
      ∀ late, (∀ lap ∈ laps, lap.late = late) →
        ∀ lap ∈ laps.tail, |inMillis lap.length - 1000 / limit.toNat| ≤ inMillis 1 := by
  rw [← Pacer.period_eq hlimit]
  exact ⟨h.total_eq, h.abs_overshoot_sub_le, h.isChain, fun _ => h.abs_length_sub_le⟩

/-- A pacer and its clock after five milliseconds of work and the rest of a frame. -/
def paceAtSixty (s : Pacer Rat × Manual) : Pacer Rat × Manual :=
  (s.1.pace Manual.clock 60 (s.2.advance 5000000)).2

/-- A pacer with a clock on which every sleep ends three milliseconds late. -/
def drowsy : Pacer Rat × Manual := (.start 0, { oversleep := 3000000 })

theorem limiter_without_drift_drowsy :
    inMillis (paceAtSixty (paceAtSixty drowsy)).1.lastFrame =
        2 * (1000 / 60) + (paceAtSixty (paceAtSixty drowsy)).1.overshoot ∧
      |(paceAtSixty (paceAtSixty drowsy)).1.overshoot - 3| ≤ inMillis 1 / 2 ∧
      |inMillis ((paceAtSixty (paceAtSixty drowsy)).1.lastFrame -
        (paceAtSixty drowsy).1.lastFrame) - 1000 / 60| ≤ inMillis 1 := by
  have h₀ : Laps Manual.clock 60 0 [] drowsy.1 drowsy.2 := .start drowsy.2
  have h₁ := h₀.next_of_le (drowsy.2.advance 5000000) 3000000 (by decide +kernel)
    (by decide +kernel) (by decide +kernel)
  have h₂ : Laps Manual.clock 60 0 _ (paceAtSixty (paceAtSixty drowsy)).1 _ :=
    h₁.next_of_le ((paceAtSixty drowsy).2.advance 5000000) 3000000 (by decide +kernel)
      (by decide +kernel) (by decide +kernel)
  obtain ⟨htotal, hovershoot, -, hsteady⟩ := limiter_without_drift (by decide) h₂
  have hlast := hovershoot _ rfl
  have hlength := hsteady 3000000 (by simp) _ (.head _)
  have hlate : inMillis 3000000 = 3 := by norm_num [inMillis]
  have hsixty : ((UInt32.toNat 60 : Nat) : Rat) = 60 := by
    exact_mod_cast (rfl : UInt32.toNat 60 = 60)
  rw [hsixty] at htotal hlength
  refine ⟨?_, ?_, hlength⟩
  · simpa using htotal
  · rw [← hlate]
    exact hlast

end Pacing

end WindowHost
