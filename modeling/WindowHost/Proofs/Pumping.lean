import WindowHost.Proofs.Course
import WindowHost.Script

/-!
# Pumping in the course of a window

The size in the settings is the one that the renderer was brought to last, over the whole course,
and nothing else changes there. What a turn makes of the input is told by `Step.input_eq`: a path of
its deliveries comes first, and then what its operation is for.
-/

namespace WindowHost.Window

variable {W α β Raw Frame : Type} [Scalar α] [Narrowing α β] [Scalar β]
  {d : Devices W α Raw Frame} {config : Config} {world : W} {s s₁ s' : Window W α β}
  {turns : List (Turn W α β Raw)} {turn : Turn W α β Raw}

/-! ## The settings -/

theorem Step.size_config (h : Step d s turn s') :
    s'.config.size = lastSize s.config.size turn.delivered := by
  cases h with
  | alone hop h => rw [Operation.tail_config d _ (Operation.tail_of_not_pumps d hop ▸ h), lastSize]
  | refused hop h => rw [Operation.lead_config d _ h, lastSize]
  | interrupted hop hlead hpoll hpump hends =>
    rw [← Operation.lead_config d _ hlead]
    exact hends.size_config
  | pumped hop hlead hpoll hpump hends htail =>
    rw [Operation.tail_config d _ htail, ← Operation.lead_config d _ hlead]
    exact hends.size_config

/-- The size in the settings is the one that the renderer was brought to last. -/
theorem Course.size_config (h : Course d config world turns s) :
    s.config.size = lastSize config.size (history turns) := by
  induction h with
  | opened _ hends hprepare =>
    rw [(keeps_prepareForNextFrame d (f := Window.config)
      ⟨fun _ _ => rfl, fun _ _ => rfl⟩).eq hprepare, history_singleton]
    exact hends.size_config
  | next _ hstep ih =>
    rw [hstep.size_config, ih, history_append, history_singleton, lastSize_append]

omit [Scalar β] in
/-- Handing over a batch changes the size in the settings and nothing else there. -/
theorem Ends.config_eq {batch : List (Report α Raw)} {ds : List (Delivery α Raw)}
    {p : Except Halt Unit × Window W α β} (h : Ends d s batch ds p) :
    p.2.config = { s.config with size := lastSize s.config.size ds } := by
  have hrest : ({ p.2.config with size := default } : Config) = { s.config with size := default } :=
    h.keeps (f := fun s => { s.config with size := default })
      ⟨fun _ => rfl, fun _ => rfl, fun _ => rfl, fun _ _ => rfl, fun _ _ => rfl, fun _ _ _ => rfl,
        fun _ _ => rfl⟩
  calc p.2.config
      = { ({ p.2.config with size := default } : Config) with size := p.2.config.size } := rfl
    _ = { s.config with size := lastSize s.config.size ds } := by rw [hrest, h.size_config]

theorem Step.config_eq (h : Step d s turn s') :
    s'.config = { s.config with size := lastSize s.config.size turn.delivered } := by
  cases h with
  | alone hop h => rw [Operation.tail_config d _ (Operation.tail_of_not_pumps d hop ▸ h)]; rfl
  | refused hop h => rw [Operation.lead_config d _ h]; rfl
  | interrupted hop hlead hpoll hpump hends =>
    rw [← Operation.lead_config d _ hlead]
    exact hends.config_eq
  | pumped hop hlead hpoll hpump hends htail =>
    rw [Operation.tail_config d _ htail, ← Operation.lead_config d _ hlead]
    exact hends.config_eq

/-- Nothing but the size changes in the settings. -/
theorem Course.config_eq (h : Course d config world turns s) :
    s.config = { config with size := lastSize config.size (history turns) } := by
  induction h with
  | opened _ hends hprepare =>
    rw [(keeps_prepareForNextFrame d (f := Window.config)
      ⟨fun _ _ => rfl, fun _ _ => rfl⟩).eq hprepare, history_singleton]
    exact hends.config_eq
  | next _ hstep ih =>
    rw [hstep.config_eq, ih, history_append, history_singleton, lastSize_append]

/-! ## The input -/

/-- The input after a turn is what a path of its deliveries has made of the input before, and then
what its operation is for. -/
theorem Step.input_eq (h : Step d s turn s') :
    ∃ s₁ s₂, s₁.input = s.input ∧ Path d s.config.size s₁ turn.delivered s₂ ∧
      s'.input = turn.onInput s₂.input := by
  cases h with
  | @alone op a s' hop h =>
    rw [← Operation.tail_of_not_pumps d hop] at h
    refine ⟨s, s, rfl, .nil, ?_⟩
    rw [op.exec_tail_input d h, isOk_mapError]
    cases a <;> rfl
  | @refused op e s' hop h => exact ⟨s, s, rfl, .nil, op.lead_input d h⟩
  | @interrupted op s₁ w batch ds e s' hop hlead hpoll hpump hends =>
    obtain ⟨s₂, w', hpath, rfl⟩ := hends.path
    rw [inWorld_config, op.lead_config d hlead] at hpath
    have hinput : s₁.input = s.input := op.lead_input d hlead
    exact ⟨s₁.inWorld w, s₂, hinput, hpath, rfl⟩
  | @pumped op s₁ w batch ds s₂ a s' hop hlead hpoll hpump hends htail =>
    obtain ⟨-, hpath⟩ := hends.of_ok
    rw [inWorld_config, op.lead_config d hlead] at hpath
    have hinput : s₁.input = s.input := op.lead_input d hlead
    refine ⟨s₁.inWorld w, s₂, hinput, hpath, ?_⟩
    rw [op.exec_tail_input d htail, isOk_mapError]
    cases a <;> rfl

/-! ## A stage with waits -/

omit [Scalar α] in
/-- On a stage no wait is given up while the script has a size left. -/
theorem patient_stage :
    Patient (Script.devices : Devices (Script.Stage α Raw) α Raw Nat) where
  read w := by
    show w.platform.sizes.tail.length ≤ w.platform.sizes.length
    exact (List.tail_sublist w.platform.sizes).length_le
  wait w _ := by
    show w.platform.sizes.tail.length ≤ w.platform.sizes.length - 1
    exact Nat.le_of_eq List.length_tail
  forward _ _ := Nat.le_refl _
  resize _ _ := Nat.le_refl _
  last w hw hempty := by
    have hnone : w.platform.sizes = [] := List.length_eq_zero_iff.1 hw
    have hsize : (w.platform.sizes.headD w.platform.size).isEmpty = true := hempty
    rw [hnone] at hsize
    refine hopeless_of_steady
      (P := fun w => w.platform.sizes = [] ∧ w.platform.size.isEmpty = true)
      (fun w hw => ?_) (fun _ hw => hw) ⟨hnone, hsize⟩
    obtain ⟨hsizes, hsize⟩ := hw
    have hread : (w.platform.sizes.headD w.platform.size).isEmpty = true := by
      rw [hsizes]
      exact hsize
    exact ⟨hread, congrArg List.tail hsizes, hread⟩

/-- A stage where a change of size waits twice, and where the second change of size that the first
wait brings has to wait as well. The pointer moves in each of the sizes. -/
def nestedStage : Script.Stage Rat Unit where
  platform :=
    { polls := [[⟨some (.key (.key .keyA) .press), none⟩, ⟨some (.resized ⟨0, 0⟩), none⟩,
        ⟨some (.key (.key .keyA) .release), none⟩, ⟨some (.cursorMoved 240 50), none⟩]]
      waits := [[⟨some (.mouse (.mouse .left) .press), none⟩, ⟨some (.cursorMoved 400 150), none⟩,
          ⟨some (.resized ⟨9, 9⟩), none⟩], [],
        [⟨some (.mouse (.mouse .left) .release), none⟩, ⟨some (.scrolled 1 (-2)), none⟩]]
      sizes := [⟨640, 480⟩, ⟨0, 0⟩, ⟨0, 480⟩, ⟨800, 600⟩, ⟨0, 0⟩, ⟨320, 200⟩]
      size := ⟨640, 480⟩ }
  renderer := { size := ⟨640, 480⟩ }
  gui := {}
  clock := {}

def nestedWindow : Window (Script.Stage Rat Unit) Rat Rat :=
  (openWith Script.devices {} nestedStage).2

end WindowHost.Window
