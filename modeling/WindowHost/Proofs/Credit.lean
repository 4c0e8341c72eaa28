import Mathlib.Algebra.Order.BigOperators.Group.List
import WindowHost.Proofs.Drift

/-!
# What late frames keep

The overshoot of a pacer is a credit: the next target takes it off. Over exact numbers, a frame that
sleeps spends its credit and leaves what its own sleep took too long. A late frame may have needed
its credit too, since it is late against the shortened target, and it leaves nine tenths of it all
the same (`Stint.kept`). So a run of frames (`Paced`) takes its periods, less what late frames have
kept, and half a nanosecond. A credit counts at most ten times in all (`Paced.potential_le`).
-/

namespace WindowHost.Pacing

variable {W : Type}

/-! ## One frame -/

/-- Whether the frame had missed its target. -/
def Outcome.isLate {α : Type} : Outcome α → Bool
  | .slept _ _ => false
  | .late _ => true

/-- Sleeping until the deadline does not end before it, and so many milliseconds after it at
most. -/
def Clock.WakesWithin (c : Clock W) (bound : Rat) (deadline : Instant) (w : W) : Prop :=
  deadline ≤ c.now (c.sleepUntil deadline w) ∧
    inMillis (c.now (c.sleepUntil deadline w) - deadline) ≤ bound

instance (c : Clock W) (bound : Rat) (deadline : Instant) (w : W) :
    Decidable (c.WakesWithin bound deadline w) :=
  inferInstanceAs (Decidable (_ ∧ _))

/-- A frame: the credit that its target took off the period, and what the pacer did. -/
structure Stint where
  credit : Rat
  outcome : Outcome Rat

namespace Stint

variable {period bound : Rat} {t : Stint}

/-- How long the frame was, in milliseconds. -/
def length (t : Stint) : Rat :=
  match t.outcome with
  | .slept _ actual => actual
  | .late elapsed => elapsed

/-- The credit that the frame leaves to the next one. -/
def left (t : Stint) : Rat :=
  match t.outcome with
  | .slept target actual => actual - target
  | .late _ => 9 / 10 * t.credit

/-- What the frame leaves of the credit that it took. -/
def kept (t : Stint) : Rat :=
  match t.outcome with
  | .slept _ _ => 0
  | .late _ => 9 / 10 * t.credit

/-- By how much the frame had missed its target. -/
def lateness (period : Rat) (t : Stint) : Rat :=
  match t.outcome with
  | .slept _ _ => 0
  | .late elapsed => elapsed - (period - t.credit)

/-- A frame that sleeps has its credit taken off the period, and ends late by the bound at most,
within half a nanosecond. A late frame is longer than what its credit has left of the period. -/
def Obeys (period bound : Rat) (t : Stint) : Prop :=
  match t.outcome with
  | .slept target actual => target = period - t.credit ∧
      -(inMillis 1 / 2) ≤ actual - target ∧ actual - target ≤ bound + inMillis 1 / 2
  | .late elapsed => period - t.credit < elapsed

theorem Obeys.length_eq (h : t.Obeys period bound) :
    t.length = period - t.credit + t.left + (t.lateness period - t.kept) := by
  obtain ⟨credit, ⟨target, actual⟩ | elapsed⟩ := t
  · obtain ⟨htarget, -⟩ := h
    simp only [length, left, lateness, kept]
    linarith
  · simp only [length, left, lateness, kept]
    ring

theorem Obeys.lateness_nonneg (h : t.Obeys period bound) : 0 ≤ t.lateness period := by
  obtain ⟨credit, ⟨target, actual⟩ | elapsed⟩ := t
  · exact le_rfl
  · have hmissed : period - credit < elapsed := h
    simp only [lateness]
    linarith

theorem inMillis_one_pos : 0 < inMillis 1 := by
  norm_num [inMillis]

theorem Obeys.le_left (h : t.Obeys period bound) (hcredit : -(inMillis 1 / 2) ≤ t.credit) :
    -(inMillis 1 / 2) ≤ t.left := by
  have hpos := inMillis_one_pos
  obtain ⟨credit, ⟨target, actual⟩ | elapsed⟩ := t
  · exact h.2.1
  · simp only [left] at hcredit ⊢
    linarith

theorem Obeys.left_le (h : t.Obeys period bound) (hbound : 0 ≤ bound)
    (hcredit : t.credit ≤ bound + inMillis 1 / 2) : t.left ≤ bound + inMillis 1 / 2 := by
  have hpos := inMillis_one_pos
  obtain ⟨credit, ⟨target, actual⟩ | elapsed⟩ := t
  · exact h.2.2
  · simp only [left] at hcredit ⊢
    linarith

end Stint

namespace Pacer

variable {c : Clock W} {limit : UInt32} {bound : Rat} {p p' : Pacer Rat} {w w' : W}
  {target actual elapsed : Rat} {outcome : Outcome Rat}

theorem decayed_eq (overshoot : Rat) : decayed overshoot = 9 / 10 * overshoot := by
  show overshoot * (((9 : Nat) : Rat) / ((10 : Nat) : Rat)) = _
  push_cast
  ring

/-- What a late frame has done. -/
theorem pace_late (h : p.pace c limit w = (.late elapsed, p', w')) :
    p.target limit < elapsed ∧
      elapsed = Duration.milliseconds (Instant.since (c.now w) p.lastFrame) ∧
      p' = ⟨c.now w', decayed p.overshoot⟩ ∧ w' = w := by
  unfold pace at h
  dsimp only at h
  split at h
  · cases h
  · next hle =>
    cases h
    have hlt : ¬ (_ : Rat) ≤ _ := fun hle' => hle (decide_eq_true hle')
    exact ⟨not_le.1 hlt, rfl, rfl, rfl⟩

theorem lastFrame_le_deadline (p : Pacer Rat) (target : Rat) :
    p.lastFrame ≤ p.deadline target :=
  Int.le_add_of_nonneg_right (Int.natCast_nonneg _)

/-- A frame that sleeps has a target that is not below zero, even if the clock went back. -/
theorem target_nonneg_of_slept (h : p.pace c limit w = (.slept target actual, p', w')) :
    0 ≤ p.target limit := by
  obtain ⟨hle, -⟩ := pace_slept h
  have hintime := of_decide_eq_true hle
  rw [Duration.milliseconds_eq] at hintime
  have helapsed := inMillis_le (Int.natCast_nonneg (Instant.since (c.now w) p.lastFrame))
  rw [inMillis_zero] at helapsed
  exact helapsed.trans hintime

/-- A sleep that wakes within a bound is too long by the bound at most, within half a
nanosecond. -/
theorem overslept_bounds (htarget : 0 ≤ target)
    (hwake : c.WakesWithin bound (p.deadline target) w) :
    -(inMillis 1 / 2) ≤
        inMillis (c.now (c.sleepUntil (p.deadline target) w) - p.lastFrame) - target ∧
      inMillis (c.now (c.sleepUntil (p.deadline target) w) - p.lastFrame) - target ≤
        bound + inMillis 1 / 2 := by
  obtain ⟨hlow, hhigh⟩ := abs_le.1 (p.abs_deadline_sub_le htarget)
  have hafter := inMillis_le (Int.sub_nonneg.2 hwake.1)
  have hwithin := hwake.2
  rw [inMillis_zero] at hafter
  rw [inMillis_sub] at hlow hhigh hafter hwithin ⊢
  constructor <;> linarith

/-- A frame that sleeps within a bound ends when the clock says, after the frame before it. -/
theorem milliseconds_slept (h : p.pace c limit w = (.slept target actual, p', w'))
    (hwake : c.WakesWithin bound (p.deadline (p.target limit)) w) :
    actual = inMillis (c.now w' - p.lastFrame) := by
  obtain ⟨-, rfl, -, rfl, -⟩ := pace_slept h
  exact Instant.milliseconds_since ((p.lastFrame_le_deadline _).trans hwake.1)

/-- A frame ends at the instant that the pacer keeps, and obeys the pacer's rules, wherever the
clock was when it ended. -/
theorem pace_leaves (h : p.pace c limit w = (outcome, p', w'))
    (hwake : outcome.isLate = false → c.WakesWithin bound (p.deadline (p.target limit)) w) :
    p'.lastFrame = c.now w' ∧
      p'.overshoot = Stint.left ⟨p.overshoot, outcome⟩ ∧
      Stint.Obeys (Pacer.period limit) bound ⟨p.overshoot, outcome⟩ := by
  rcases outcome with ⟨target, actual⟩ | elapsed
  · have hactual := milliseconds_slept h (hwake rfl)
    obtain ⟨hlow, hhigh⟩ := overslept_bounds (target_nonneg_of_slept h) (hwake rfl)
    obtain ⟨-, rfl, rfl, -, rfl⟩ := pace_slept h
    rw [← hactual] at hlow hhigh
    exact ⟨rfl, rfl, rfl, hlow, hhigh⟩
  · obtain ⟨hlt, -, rfl, rfl⟩ := pace_late h
    exact ⟨rfl, decayed_eq _, hlt⟩

/-- While the clock does not go back, a frame is as long as the pacer says. -/
theorem pace_obeys (hlast : p.lastFrame ≤ c.now w) (h : p.pace c limit w = (outcome, p', w'))
    (hwake : outcome.isLate = false → c.WakesWithin bound (p.deadline (p.target limit)) w) :
    p'.lastFrame = c.now w' ∧
      inMillis (p'.lastFrame - p.lastFrame) = Stint.length ⟨p.overshoot, outcome⟩ ∧
      p'.overshoot = Stint.left ⟨p.overshoot, outcome⟩ ∧
      Stint.Obeys (Pacer.period limit) bound ⟨p.overshoot, outcome⟩ := by
  obtain ⟨hends, hleft, hobeys⟩ := pace_leaves h hwake
  refine ⟨hends, ?_, hleft, hobeys⟩
  rw [hends]
  rcases outcome with ⟨target, actual⟩ | elapsed
  · exact (milliseconds_slept h (hwake rfl)).symm
  · obtain ⟨-, rfl, -, rfl⟩ := pace_late h
    exact (Instant.milliseconds_since hlast).symm

end Pacer

/-! ## A run of frames -/

/-- The frames of a pacer that was started at an instant, at one limit, late or not. Before the end
of each frame, some time passes, and no sleep wakes outside the bound. -/
inductive Paced (c : Clock W) (limit : UInt32) (bound : Rat) :
    Instant → List Stint → Pacer Rat → W → Prop where
  | start (w) : Paced c limit bound (c.now w) [] (Pacer.start (c.now w)) w
  | next {since stints p w w₁ outcome p' w'} : Paced c limit bound since stints p w →
      c.now w ≤ c.now w₁ → p.pace c limit w₁ = (outcome, p', w') →
      (outcome.isLate = false → c.WakesWithin bound (p.deadline (p.target limit)) w₁) →
      Paced c limit bound since (stints ++ [⟨p.overshoot, outcome⟩]) p' w'

namespace Paced

variable {c : Clock W} {limit : UInt32} {bound : Rat} {since : Instant} {stints : List Stint}
  {p : Pacer Rat} {w : W}

/-- The number of frames of a run that were late, or that were not. -/
def count (late : Bool) (stints : List Stint) : Nat :=
  stints.countP fun t => t.outcome.isLate == late

/-- What the late frames of a run have kept in all. -/
def kept (stints : List Stint) : Rat := (stints.map Stint.kept).sum

section Concat

variable (late : Bool) (stints : List Stint) (credit target actual elapsed : Rat)

theorem count_slept :
    count late (stints ++ [⟨credit, .slept target actual⟩]) =
      count late stints + (!late).toNat := by
  cases late <;> simp [count, Outcome.isLate]

theorem count_late :
    count late (stints ++ [⟨credit, .late elapsed⟩]) = count late stints + late.toNat := by
  cases late <;> simp [count, Outcome.isLate]

theorem kept_slept : kept (stints ++ [⟨credit, .slept target actual⟩]) = kept stints := by
  simp [kept, Stint.kept]

theorem kept_late :
    kept (stints ++ [⟨credit, .late elapsed⟩]) = kept stints + 9 / 10 * credit := by
  simp [kept, Stint.kept]

end Concat

/-- A run goes on after any work with what the pacer does then. -/
theorem next_pace (h : Paced c limit bound since stints p w) (w₁ : W) (hwork : c.now w ≤ c.now w₁)
    (hwake : (p.pace c limit w₁).1.isLate = false →
      c.WakesWithin bound (p.deadline (p.target limit)) w₁) :
    Paced c limit bound since (stints ++ [⟨p.overshoot, (p.pace c limit w₁).1⟩])
      (p.pace c limit w₁).2.1 (p.pace c limit w₁).2.2 :=
  h.next hwork rfl hwake

theorem lastFrame_eq (h : Paced c limit bound since stints p w) : p.lastFrame = c.now w := by
  induction h with
  | start w => rfl
  | next _ hwork hpace hwake ih =>
    exact (Pacer.pace_obeys (ih.trans_le hwork) hpace hwake).1

theorem forall_obeys (h : Paced c limit bound since stints p w) :
    ∀ t ∈ stints, t.Obeys (Pacer.period limit) bound := by
  induction h with
  | start w => nofun
  | next h hwork hpace hwake ih =>
    have hobeys := (Pacer.pace_obeys (h.lastFrame_eq.trans_le hwork) hpace hwake).2.2.2
    exact List.forall_mem_append.2 ⟨ih, List.forall_mem_singleton.2 hobeys⟩

/-- The credit in hand is what the last frame has left. -/
theorem overshoot_eq (h : Paced c limit bound since stints p w) :
    p.overshoot = (stints.getLast?.map Stint.left).getD 0 := by
  cases h with
  | start w => exact Nat.cast_zero
  | next h hwork hpace hwake =>
    rw [List.getLast?_concat]
    exact (Pacer.pace_obeys (h.lastFrame_eq.trans_le hwork) hpace hwake).2.2.1

theorem head_credit (h : Paced c limit bound since stints p w) :
    ∀ t ∈ stints.head?, t.credit = 0 := by
  induction h with
  | start w => nofun
  | @next since stints p w w₁ outcome p' w' h hwork hpace hwake ih =>
    intro t ht
    rcases stints with _ | ⟨t₀, stints⟩
    · obtain rfl := Option.some.inj ht
      exact h.overshoot_eq
    · exact ih t ht

/-- A frame takes the credit that the frame before it has left. -/
theorem isChain (h : Paced c limit bound since stints p w) :
    stints.IsChain fun a b => b.credit = a.left := by
  induction h with
  | start w => exact .nil
  | @next since stints p w w₁ outcome p' w' h hwork hpace hwake ih =>
    refine List.isChain_append.2 ⟨ih, .singleton _, fun a ha b hb => ?_⟩
    obtain rfl := Option.some.inj hb
    rw [h.overshoot_eq, Option.mem_def.1 ha]
    rfl

/-- What each frame takes off and adds cancels out, but for what late frames keep. -/
theorem total_eq (h : Paced c limit bound since stints p w) :
    inMillis (p.lastFrame - since) = stints.length * Pacer.period limit + p.overshoot +
      (stints.map (Stint.lateness (Pacer.period limit))).sum - kept stints := by
  induction h with
  | start w =>
    show inMillis (c.now w - c.now w) = ((0 : Nat) : Rat) * _ + ((0 : Nat) : Rat) + 0 - 0
    rw [Int.sub_self, inMillis_zero]
    push_cast
    ring
  | @next since stints p w w₁ outcome p' w' h hwork hpace hwake ih =>
    obtain ⟨-, hlength, hleft, hobeys⟩ :=
      Pacer.pace_obeys (h.lastFrame_eq.trans_le hwork) hpace hwake
    have hparts := hobeys.length_eq
    rw [← hlength, ← hleft] at hparts
    rw [inMillis_sub] at hparts ih ⊢
    simp only [kept, List.map_append, List.sum_append, List.map_singleton, List.sum_singleton,
      List.length_append, List.length_singleton] at ih ⊢
    push_cast
    linarith

/-! ## What is kept -/

theorem le_overshoot (h : Paced c limit bound since stints p w) :
    -(inMillis 1 / 2) ≤ p.overshoot := by
  have hpos := Stint.inMillis_one_pos
  induction h with
  | start w =>
    show _ ≤ ((0 : Nat) : Rat)
    push_cast
    linarith
  | next h hwork hpace hwake ih =>
    obtain ⟨-, -, hleft, hobeys⟩ := Pacer.pace_obeys (h.lastFrame_eq.trans_le hwork) hpace hwake
    rw [hleft]
    exact hobeys.le_left ih

theorem overshoot_le (h : Paced c limit bound since stints p w) (hbound : 0 ≤ bound) :
    p.overshoot ≤ bound + inMillis 1 / 2 := by
  have hpos := Stint.inMillis_one_pos
  induction h with
  | start w =>
    show ((0 : Nat) : Rat) ≤ _
    push_cast
    linarith
  | next h hwork hpace hwake ih =>
    obtain ⟨-, -, hleft, hobeys⟩ := Pacer.pace_obeys (h.lastFrame_eq.trans_le hwork) hpace hwake
    rw [hleft]
    exact hobeys.left_le hbound ih

theorem lateness_nonneg (h : Paced c limit bound since stints p w) :
    0 ≤ (stints.map (Stint.lateness (Pacer.period limit))).sum := by
  apply List.sum_nonneg
  intro x hx
  obtain ⟨t, ht, rfl⟩ := List.mem_map.1 hx
  exact (h.forall_obeys t ht).lateness_nonneg

/-- The periods are over, but for half a nanosecond and what late frames have kept. -/
theorem le_total (h : Paced c limit bound since stints p w) :
    stints.length * Pacer.period limit - inMillis 1 / 2 - kept stints ≤
      inMillis (p.lastFrame - since) := by
  have hlow := h.le_overshoot
  have hlate := h.lateness_nonneg
  rw [h.total_eq]
  linarith

/-- A late frame keeps nine tenths of the longest oversleep at most. -/
theorem kept_le (h : Paced c limit bound since stints p w) (hbound : 0 ≤ bound) :
    kept stints ≤ count true stints * (9 / 10 * (bound + inMillis 1 / 2)) := by
  induction h with
  | start w => simp [kept, count]
  | @next since stints p w w₁ outcome p' w' h hwork hpace hwake ih =>
    have hcredit := h.overshoot_le hbound
    rcases outcome with ⟨target, actual⟩ | elapsed
    · rwa [kept_slept, count_slept]
    · rw [kept_late, count_late, Bool.toNat_true]
      push_cast
      linarith

/-- What late frames have kept, and nine times the credit in hand, come from the sleeps, each of
which gives nine times the longest oversleep at most. So a credit counts ten times at most, once by
itself and nine times as what late frames keep. -/
theorem potential_le (h : Paced c limit bound since stints p w) (hbound : 0 ≤ bound) :
    kept stints + 9 * max p.overshoot 0 ≤
      count false stints * (9 * (bound + inMillis 1 / 2)) := by
  have hpos := Stint.inMillis_one_pos
  induction h with
  | start w => simp [kept, count, Pacer.start, Scalar.ofNat]
  | @next since stints p w w₁ outcome p' w' h hwork hpace hwake ih =>
    obtain ⟨-, -, hleft, hobeys⟩ := Pacer.pace_obeys (h.lastFrame_eq.trans_le hwork) hpace hwake
    rw [hleft]
    rcases outcome with ⟨target, actual⟩ | elapsed
    · -- the sleep drops the old credit and gives a new one
      have hold : 0 ≤ max p.overshoot 0 := le_max_right _ _
      have hnew : max (actual - target) 0 ≤ bound + inMillis 1 / 2 :=
        max_le hobeys.2.2 (by linarith)
      rw [kept_slept, count_slept, Bool.not_false, Bool.toNat_true, Stint.left]
      push_cast
      linarith
    · -- the tenth of the credit that goes pays for what is kept
      rw [kept_late, count_late, Bool.toNat_false, Nat.add_zero, Stint.left]
      by_cases hcredit : 0 ≤ p.overshoot
      · rw [max_eq_left (by linarith)]
        rw [max_eq_left hcredit] at ih
        linarith
      · rw [max_eq_right (by linarith)]
        rw [max_eq_right (by linarith)] at ih
        linarith

end Paced

/-- The limiter keeps its rate up to what late frames keep. Each frame takes the credit that the
frame before it has left, and the first takes none. A run of frames takes its periods, less half a
nanosecond and what its late frames have kept. Each of them keeps nine tenths of the longest
oversleep at most, and together they keep nine longest oversleeps for each sleep at most. -/
theorem limiter_credit {c : Clock W} {limit : UInt32} {bound : Rat} {since : Instant}
    {stints : List Stint} {p : Pacer Rat} {w : W} (hlimit : 1 ≤ limit.toNat) (hbound : 0 ≤ bound)
    (h : Paced c limit bound since stints p w) :
    (∀ t ∈ stints, t.Obeys (1000 / limit.toNat) bound) ∧
      (∀ t ∈ stints.head?, t.credit = 0) ∧
      (stints.IsChain fun a b => b.credit = a.left) ∧
      inMillis (p.lastFrame - since) = stints.length * (1000 / limit.toNat) + p.overshoot +
        (stints.map (Stint.lateness (1000 / limit.toNat))).sum - Paced.kept stints ∧
      stints.length * (1000 / limit.toNat) - inMillis 1 / 2 - Paced.kept stints ≤
        inMillis (p.lastFrame - since) ∧
      Paced.kept stints ≤ Paced.count true stints * (9 / 10 * (bound + inMillis 1 / 2)) ∧
      Paced.kept stints ≤ Paced.count false stints * (9 * (bound + inMillis 1 / 2)) := by
  have hnonneg : 0 ≤ max p.overshoot 0 := le_max_right _ _
  have hpotential := h.potential_le hbound
  rw [← Pacer.period_eq hlimit]
  exact ⟨h.forall_obeys, h.head_credit, h.isChain, h.total_eq, h.le_total, h.kept_le hbound,
    by linarith⟩

/-- A pacer and its clock, on which every sleep ends three milliseconds late, after frames with so
much work. -/
def paceWorks (works : List Int) : Pacer Rat × Manual :=
  works.foldl (fun s work => (s.1.pace Manual.clock 60 (s.2.advance work)).2) drowsy

/-- What the pacer does in a frame with so much work, after others. -/
def stintAfter (works : List Int) (work : Int) : Stint :=
  ⟨(paceWorks works).1.overshoot,
    ((paceWorks works).1.pace Manual.clock 60 ((paceWorks works).2.advance work)).1⟩

theorem paced_nil : Paced Manual.clock 60 3 0 [] (paceWorks []).1 (paceWorks []).2 :=
  .start drowsy.2

theorem Paced.concat {works : List Int} {stints : List Stint}
    (h : Paced Manual.clock 60 3 0 stints (paceWorks works).1 (paceWorks works).2) (work : Nat)
    (hwake : (stintAfter works work).outcome.isLate = false →
      Manual.clock.WakesWithin 3 ((paceWorks works).1.deadline ((paceWorks works).1.target 60))
        ((paceWorks works).2.advance work)) :
    Paced Manual.clock 60 3 0 (stints ++ [stintAfter works work])
      (paceWorks (works ++ [(work : Int)])).1 (paceWorks (works ++ [(work : Int)])).2 := by
  have hwork : (paceWorks works).2.now ≤ ((paceWorks works).2.advance work).now :=
    Int.le_add_of_nonneg_right (Int.natCast_nonneg work)
  have hnext := h.next_pace ((paceWorks works).2.advance work) hwork hwake
  unfold paceWorks at hnext ⊢
  rw [List.foldl_concat]
  exact hnext

/-- A sleep and three late frames, each of which takes a credit of almost three milliseconds. -/
theorem paced_sprint :
    ∃ stints, Paced Manual.clock 60 3 0 stints (paceWorks [0, 13666667, 13966667, 14236667]).1
        (paceWorks [0, 13666667, 13966667, 14236667]).2 ∧
      stints.length = 4 ∧ Paced.count true stints = 3 := by
  have h₁ := paced_nil.concat 0 (by decide +kernel)
  have h₂ := h₁.concat 13666667 (by decide +kernel)
  have h₃ := h₂.concat 13966667 (by decide +kernel)
  exact ⟨_, h₃.concat 14236667 (by decide +kernel), rfl, by decide +kernel⟩

theorem limiter_credit_sprint :
    4 * (1000 / 60) - inMillis 1 / 2 - 3 * (9 / 10 * (3 + inMillis 1 / 2)) ≤
      inMillis (paceWorks [0, 13666667, 13966667, 14236667]).1.lastFrame := by
  obtain ⟨stints, h, hlength, hcount⟩ := paced_sprint
  obtain ⟨-, -, -, -, htotal, hkept, -⟩ := limiter_credit (by decide) (by norm_num) h
  have hsixty : ((UInt32.toNat 60 : Nat) : Rat) = 60 := by
    exact_mod_cast (rfl : UInt32.toNat 60 = 60)
  rw [hlength, hsixty, Int.sub_zero] at htotal
  rw [hcount] at hkept
  push_cast at htotal hkept
  linarith

/-- A credit that is spent in each of three late frames: four frames are over more than a longest
oversleep before their four periods. -/
theorem credit_spent_again :
    ∃ stints, Paced Manual.clock 60 3 0 stints (paceWorks [0, 13666667, 13966667, 14236667]).1
        (paceWorks [0, 13666667, 13966667, 14236667]).2 ∧
      stints.length = 4 ∧
      inMillis ((paceWorks [0, 13666667, 13966667, 14236667]).1.lastFrame - 0) <
        stints.length * (1000 / 60) - 3 := by
  obtain ⟨stints, h, hlength, -⟩ := paced_sprint
  refine ⟨stints, h, hlength, ?_⟩
  rw [hlength]
  decide +kernel

end WindowHost.Pacing
