import WindowHost.Proofs.Place
import WindowHost.Proofs.Scrolling

/-!
# Each report exactly once

Every operation that pumps hands over the flattening of its batch, each report once and in order, or
a first part of it. What that makes of the queue, the buttons, the scrolling and the cursor is said
of the deliveries alone: events and steps of scrolling add up in their order, the last report about
a button decides, and the cursor is where the last report of a place has put it, as fractions of the
size that the renderer was brought to last before that report.
-/

namespace WindowHost.Window

variable {W α β Raw Frame : Type} [Scalar α] [Narrowing α β] [Scalar β]
  {d : Devices W α Raw Frame} {config : Config} {world : W} {s s₁ : Window W α β}
  {turns : List (Turn W α β Raw)} {batch : List (Report α Raw)} {ds : List (Delivery α Raw)}
  {p : Except Halt Unit × Window W α β}

omit [Scalar β] in
theorem Ends.scroll (h : Ends d s batch ds p) :
    p.2.input.scroll = sumFrom s.input.scroll (Delivery.scrolls ds) := by
  obtain ⟨s₁, w, hpath, hp⟩ := h.path
  rw [hp]
  exact hpath.scroll

omit [Scalar β] in
/-- The cursor is where the deliveries have put it, if the first size has an area. -/
theorem Ends.position (h : Ends d s batch ds p) (hsize : s.config.size.isEmpty = false) :
    p.2.input.position = lastPlace s.config.size s.input.position ds := by
  obtain ⟨s₁, w, hpath, hp⟩ := h.path
  rw [hp]
  exact hpath.position hsize

/-- An operation that gets as far as pumping hands over the flattening of the batch that the
platform gives it: all of it if the pump succeeds, and otherwise all before the new size that could
not be settled. In either case the events have joined the queue in that order, the scrolling was
added in that order, a button is down if the last report about it leaves it down, and the cursor is
where the last report of a place has put it. The first size for the cursor is the one that the
renderer was brought to last. -/
theorem pump_exactly_once (h : Course d config world turns s) (op : Operation W)
    (hop : op.pumps = true) (hlead : exec (op.lead d) s = (.ok (), s₁)) :
    exec (op.perform d) s = exec (do pump d; op.tail d) s₁ ∧
      s₁.config.size = lastSize config.size (history turns) ∧
      ∃ ds, Ends d (s₁.inWorld (d.platform.poll s₁.world).2) (d.platform.poll s₁.world).1 ds
          (exec (pump d) s₁) ∧
        (exec (pump d) s₁).2.events.waiting = s.events.waiting ++ Delivery.events ds ∧
        (exec (pump d) s₁).2.input.scroll = sumFrom s.input.scroll (Delivery.scrolls ds) ∧
        (∀ b, (exec (pump d) s₁).2.input.isPressed b =
          downAfter (s.input.isPressed b) (actionsOn b (ds.map Delivery.report))) ∧
        (exec (pump d) s₁).2.input.position =
          lastPlace (lastSize config.size (history turns)) s.input.position ds ∧
        (exec (pump d) s₁).2.config.size =
          lastSize (lastSize config.size (history turns)) ds := by
  have hinput : s₁.input = s.input := op.lead_input d hlead
  have hsize : s₁.config.size = lastSize config.size (history turns) := by
    rw [op.lead_config d hlead, h.size_config]
  have harea : s₁.config.size.isEmpty = false := by
    rw [hsize]
    exact h.lastSize_nonempty (List.append_nil _).symm
  obtain ⟨ds, hends⟩ := exec_pump_ends d s₁ (h.wired.lead hlead)
  refine ⟨?_, hsize, ds, hends, ?_, ?_, fun b => ?_, ?_, ?_⟩
  · rw [Operation.perform_pumps d hop, exec_bind_of_ok hlead]
  · rw [hends.events, inWorld_events, op.lead_events d hlead]
  · rw [hends.scroll, inWorld_input, hinput]
  · rw [hends.isPressed, inWorld_input, hinput]
  · rw [hends.position harea, inWorld_config, inWorld_input, hsize, hinput]
  · rw [hends.size_config, inWorld_config, hsize]

/-- How the changes of size on that stage are settled, the outer one and the one in its wait. -/
def outerSettling : Settling Rat Unit :=
  ⟨[(⟨0, 0⟩, [⟨some (.mouse (.mouse .left) .press), none⟩, ⟨some (.cursorMoved 400 150), none⟩,
    ⟨some (.resized ⟨9, 9⟩), none⟩]), (⟨0, 480⟩, [])], ⟨800, 600⟩⟩

def innerSettling : Settling Rat Unit :=
  ⟨[(⟨0, 0⟩, [⟨some (.mouse (.mouse .left) .release), none⟩,
    ⟨some (.scrolled 1 (-2)), none⟩])], ⟨320, 200⟩⟩

def nestedDeliveries : List (Delivery Rat Unit) :=
  [.plain ⟨some (.key (.key .keyA) .press), none⟩,
    .resized ⟨some (.resized ⟨0, 0⟩), none⟩ outerSettling,
    .plain ⟨some (.mouse (.mouse .left) .press), none⟩,
    .plain ⟨some (.cursorMoved 400 150), none⟩,
    .resized ⟨some (.resized ⟨9, 9⟩), none⟩ innerSettling,
    .plain ⟨some (.mouse (.mouse .left) .release), none⟩,
    .plain ⟨some (.scrolled 1 (-2)), none⟩,
    .plain ⟨some (.key (.key .keyA) .release), none⟩,
    .plain ⟨some (.cursorMoved 240 50), none⟩]

theorem nested_flatten :
    Flatten (Script.devices.platform.poll nestedWindow.world).1 nestedDeliveries := by
  have hinner : Flatten innerSettling.deferred
      [.plain ⟨some (.mouse (.mouse .left) .release), none⟩,
        .plain ⟨some (.scrolled 1 (-2)), none⟩] :=
    show Flatten [_, _] _ from .plain rfl (.plain rfl .nil)
  have houter : Flatten outerSettling.deferred
      [.plain ⟨some (.mouse (.mouse .left) .press), none⟩,
        .plain ⟨some (.cursorMoved 400 150), none⟩,
        .resized ⟨some (.resized ⟨9, 9⟩), none⟩ innerSettling,
        .plain ⟨some (.mouse (.mouse .left) .release), none⟩,
        .plain ⟨some (.scrolled 1 (-2)), none⟩] :=
    show Flatten [_, _, _] _ from .plain rfl (.plain rfl (Flatten.resized rfl hinner .nil))
  exact .plain rfl (Flatten.resized rfl houter (.plain rfl (.plain rfl .nil)))

theorem nested_path : ∃ s, Path Script.devices nestedWindow.config.size
    (nestedWindow.inWorld (Script.devices.platform.poll nestedWindow.world).2)
    nestedDeliveries s :=
  ⟨_, .plain rfl (.resized rfl (.again rfl rfl rfl (.again rfl rfl rfl (.last rfl))) rfl rfl
    (.plain rfl (.plain rfl (.resized rfl (.again rfl rfl rfl (.last rfl)) rfl rfl
      (.plain rfl (.plain rfl (.plain rfl (.plain rfl .nil))))))))⟩

/-- The cursor is last reported after the inner change of size, and so it is at fractions of the
size that was settled there. -/
theorem pump_exactly_once_nested :
    ∃ s, exec (pump Script.devices) nestedWindow = (.ok (), s) ∧
      Flatten (Script.devices.platform.poll nestedWindow.world).1 nestedDeliveries ∧
      Path Script.devices nestedWindow.config.size
        (nestedWindow.inWorld (Script.devices.platform.poll nestedWindow.world).2)
        nestedDeliveries s ∧
      s.events.waiting =
        [⟨.press, "A"⟩, ⟨.press, "LMB"⟩, ⟨.release, "LMB"⟩, ⟨.release, "A"⟩] ∧
      s.input.scroll = (1, -2) ∧ s.input.isPressed (.key .keyA) = false ∧
      s.input.position = (3 / 4, 1 / 4) ∧ s.config.size = ⟨320, 200⟩ := by
  have hopen : openWith Script.devices {} nestedStage = (.ok (), nestedWindow) := rfl
  have hcourse : Course Script.devices {} nestedStage _ nestedWindow :=
    opened_at_once ⟨640, 480⟩ hopen rfl rfl rfl rfl
  have hlead : exec (Operation.lead Script.devices (.pollEvents .any)) nestedWindow
      = (.ok (), nestedWindow) := rfl
  obtain ⟨s, hpath⟩ := nested_path
  have hpump : exec (pump Script.devices) nestedWindow = (.ok (), s) :=
    exec_pump_of_path ⟨rfl, rfl⟩ (by decide +kernel) nested_flatten hpath
  obtain ⟨-, -, ds, hends, hwaiting, hscroll, hpressed, hposition, hsize⟩ :=
    pump_exactly_once hcourse (.pollEvents .any) rfl hlead
  rw [hpump] at hends hwaiting hscroll hpressed hposition hsize
  obtain ⟨hflat, hpath'⟩ := hends.of_ok
  obtain ⟨rfl, -⟩ := hpath'.unique hflat.works nested_flatten.works hpath
  refine ⟨s, hpump, hflat, hpath, hwaiting, hscroll.trans ?_, (hpressed (.key .keyA)).trans ?_,
    hposition.trans ?_, hsize⟩
  · decide +kernel
  · decide +kernel
  · decide +kernel

end WindowHost.Window
