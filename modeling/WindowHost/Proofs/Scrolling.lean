import Mathlib.Data.List.DropRight
import WindowHost.Proofs.Order

/-!
# Scrolling

The scrolling of a window adds up from one `takeScrollDelta` to the next. `untaken` are the steps
that were delivered since the last one. `sumFrom` adds them in the order of their delivery, on which
a sum of rounded numbers depends. Whatever else happens in between, and whether it succeeds or not,
adds the steps that it delivers and changes nothing of the sum before.
-/

namespace WindowHost

variable {W α β Raw Frame : Type}

/-! ## Steps of scrolling -/

def Occurrence.scroll? : Occurrence α → Option (α × α)
  | .scrolled dx dy => some (dx, dy)
  | _ => none

def Report.scroll? (r : Report α Raw) : Option (α × α) := r.occurrence.bind Occurrence.scroll?

/-- The steps of scrolling that deliveries bring, in their order. -/
def Delivery.scrolls (ds : List (Delivery α Raw)) : List (α × α) :=
  ds.filterMap fun delivery => delivery.report.scroll?

/-- The steps added to a start one after the other, each axis by itself. -/
def sumFrom [Scalar α] (start : α × α) (steps : List (α × α)) : α × α :=
  ((steps.map (·.1)).foldl (· + ·) start.1, (steps.map (·.2)).foldl (· + ·) start.2)

/-- Whether a turn took the scrolling. -/
def Turn.takesScroll (turn : Turn W α β Raw) : Bool :=
  match turn.operation with
  | some .takeScrollDelta => turn.answer.isOk
  | _ => false

/-- The steps of scrolling that were delivered after the last turn that took the scrolling. -/
def untaken (turns : List (Turn W α β Raw)) : List (α × α) :=
  Delivery.scrolls (history (turns.rtakeWhile (! ·.takesScroll)))

section Steps

variable [Scalar α]

@[simp] theorem sumFrom_nil (start : α × α) : sumFrom start [] = start := rfl

theorem sumFrom_append (start : α × α) (steps steps' : List (α × α)) :
    sumFrom start (steps ++ steps') = sumFrom (sumFrom start steps) steps' := by
  simp only [sumFrom, List.map_append, List.foldl_append]

omit [Scalar α] in
theorem Delivery.scrolls_append (ds ds' : List (Delivery α Raw)) :
    scrolls (ds ++ ds') = scrolls ds ++ scrolls ds' := List.filterMap_append

omit [Scalar α] in
theorem Delivery.scrolls_cons (x : Delivery α Raw) (ds : List (Delivery α Raw)) :
    scrolls (x :: ds) = x.report.scroll?.toList ++ scrolls ds := by
  rw [scrolls, List.filterMap_cons]
  rcases x.report.scroll? with _ | step <;> rfl

omit [Scalar α] in
theorem Report.scroll?_of_isResize {r : Report α Raw} (hr : r.isResize = true) :
    r.scroll? = none := by
  rcases r with ⟨_ | o, raw⟩
  · cases hr
  · cases o with
    | resized size => rfl
    | _ => cases hr

omit [Scalar α] in
theorem untaken_concat (turns : List (Turn W α β Raw)) (turn : Turn W α β Raw) :
    untaken (turns ++ [turn]) =
      if turn.takesScroll then [] else untaken turns ++ Delivery.scrolls turn.delivered := by
  unfold untaken
  by_cases htakes : turn.takesScroll = true
  · simp [htakes, history, Delivery.scrolls]
  · simp [htakes, history_append, history_singleton, Delivery.scrolls_append]

/-- Taking resets the sum to zero, and nothing else that an operation does to the input touches
it. -/
theorem Turn.scroll_onInput (turn : Turn W α β Raw) (i : Input α β Unit) :
    (turn.onInput i).scroll =
      if turn.takesScroll then (Scalar.ofNat 0, Scalar.ofNat 0) else i.scroll := by
  rcases turn with ⟨_ | op, batch, ds, e | a, slot⟩
  · rfl
  · rfl
  · cases op <;> rfl
  · cases op <;> rfl

end Steps

namespace Window

variable [Scalar α] [Narrowing α β] {d : Devices W α Raw Frame} {size : Extent}
  {s s' : Window W α β} {ds : List (Delivery α Raw)}

/-! ## The sum -/

theorem scroll_land (size : Extent) (s : Window W α β) (r : Report α Raw) :
    (s.land size r).input.scroll = sumFrom s.input.scroll r.scroll?.toList := by
  rcases r with ⟨_ | o, raw⟩
  · rfl
  · cases o with
    | cursorMoved x y =>
      show (s.input.moveCursor x y size).scroll = s.input.scroll
      unfold Input.moveCursor
      split <;> rfl
    | _ => rfl

/-- Each delivery adds its scrolling, and no change of size interferes. -/
theorem Path.scroll (h : Path d size s ds s') :
    s'.input.scroll = sumFrom s.input.scroll (Delivery.scrolls ds) := by
  induction h with
  | nil => rfl
  | @plain size s s' r ds _ _ ih =>
    rw [ih, scroll_land, ← sumFrom_append, Delivery.scrolls_cons]
    rfl
  | @resized size s s' r g w₁ w₂ ds hr _ _ _ _ ih =>
    have hnone : (Delivery.resized r g).report.scroll? = none := Report.scroll?_of_isResize hr
    rw [ih, Delivery.scrolls_cons, hnone]
    rfl

variable [Scalar β] {config : Config} {world : W} {turns : List (Turn W α β Raw)}
  {turn : Turn W α β Raw}

/-- A turn adds the scrolling of its deliveries, unless it takes it. -/
theorem Step.scroll (h : Step d s turn s') :
    s'.input.scroll =
      if turn.takesScroll then (Scalar.ofNat 0, Scalar.ofNat 0)
      else sumFrom s.input.scroll (Delivery.scrolls turn.delivered) := by
  obtain ⟨s₁, s₂, hinput, hpath, hlast⟩ := h.input_eq
  rw [hlast, turn.scroll_onInput, hpath.scroll, hinput]

/-- A window has the sum of the steps that were not taken yet. -/
theorem Course.scroll (h : Course d config world turns s) :
    s.input.scroll = sumFrom (Scalar.ofNat 0, Scalar.ofNat 0) (untaken turns) := by
  induction h with
  | @opened ds s₁ s hopen hends hprepare =>
    have hinput : s.input = s₁.input :=
      (keeps_prepareForNextFrame d (f := Window.input) ⟨fun _ _ => rfl, fun _ _ => rfl⟩).eq hprepare
    rw [hinput, hends.of_ok.2.scroll]
    simp [untaken, history, List.rtakeWhile, Turn.takesScroll]
    rfl
  | @next turns s turn s' _ hstep ih =>
    rw [hstep.scroll, untaken_concat, ih]
    cases turn.takesScroll with
    | true => rfl
    | false => simp [sumFrom_append]

/-- What a turn that takes the scrolling answers. -/
theorem Step.takes (h : Step d s turn s') (hvisible : s.config.showWindow = true)
    (hop : turn.operation = some .takeScrollDelta) :
    turn.answer = .ok (.scroll s.input.scroll) := by
  obtain ⟨op, hop', hexec⟩ := h.exec_eq
  obtain rfl : op = .takeScrollDelta := Option.some.inj (hop'.symm.trans hop)
  rw [Operation.exec_takeScrollDelta, if_pos hvisible] at hexec
  obtain ⟨hanswer, -⟩ := Prod.mk.inj hexec
  exact ok_of_mapError hanswer

/-- A visible window answers every request for the scrolling, and the answer is the sum of the steps
that were delivered since the request before, in the order of their delivery. In between the sum
grows by what each operation delivers, also by one that fails, and by nothing else. -/
theorem scroll_taken_once (h : Course d config world turns s)
    (hvisible : config.showWindow = true) :
    exec (Operation.takeScrollDelta.perform d) s =
        (.ok (.scroll (sumFrom (Scalar.ofNat 0, Scalar.ofNat 0) (untaken turns))),
          { s with input := s.input.takeScroll.2 }) ∧
      (∀ before turn after, turns = before ++ turn :: after →
        turn.operation = some .takeScrollDelta →
        turn.answer =
          .ok (.scroll (sumFrom (Scalar.ofNat 0, Scalar.ofNat 0) (untaken before)))) ∧
      ∀ turn s', Step d s turn s' →
        s'.input.scroll =
          if turn.takesScroll then (Scalar.ofNat 0, Scalar.ofNat 0)
          else sumFrom s.input.scroll (Delivery.scrolls turn.delivered) := by
  have visible {turns s} (h : Course d config world turns s) : s.config.showWindow = true := by
    rw [h.config_eq]
    exact hvisible
  refine ⟨?_, fun before turn after hturns hop => ?_, fun turn s' hstep => hstep.scroll⟩
  · rw [Operation.exec_takeScrollDelta, if_pos (visible h), ← h.scroll]
    rfl
  · obtain ⟨s₁, s₂, hcourse, hstep⟩ := h.split hturns hop
    rw [hstep.takes (visible hcourse) hop, hcourse.scroll]

/-- A stage where the pointer scrolls before, during and after the wait for a size. -/
def scrollStage : Script.Stage Rat Unit where
  platform :=
    { polls := [[⟨some (.scrolled 1 2), none⟩, ⟨some (.resized ⟨0, 0⟩), none⟩,
        ⟨some (.scrolled 0 5), none⟩]]
      waits := [[⟨some (.scrolled (1 / 2) (-3)), none⟩]]
      sizes := [⟨640, 480⟩, ⟨0, 0⟩, ⟨800, 600⟩]
      size := ⟨640, 480⟩ }
  renderer := { size := ⟨640, 480⟩ }
  gui := {}
  clock := {}

def scrollWindow : Window (Script.Stage Rat Unit) Rat Rat :=
  (openWith Script.devices {} scrollStage).2

def scrollOpening : Turn (Script.Stage Rat Unit) Rat Rat Unit where
  operation := none
  batch := openingBatch {}
  delivered := [.resized .opening ⟨[], ⟨640, 480⟩⟩]
  answer := .ok .done
  slot := {}

def scrollSettling : Settling Rat Unit :=
  ⟨[(⟨0, 0⟩, [⟨some (.scrolled (1 / 2) (-3)), none⟩])], ⟨800, 600⟩⟩

def scrollDeliveries : List (Delivery Rat Unit) :=
  [.plain ⟨some (.scrolled 1 2), none⟩, .resized ⟨some (.resized ⟨0, 0⟩), none⟩ scrollSettling,
    .plain ⟨some (.scrolled (1 / 2) (-3)), none⟩, .plain ⟨some (.scrolled 0 5), none⟩]

/-- The turn of that window in which it pumps. -/
def scrollPoll : Turn (Script.Stage Rat Unit) Rat Rat Unit where
  operation := some (.pollEvents .any)
  batch := (Script.devices.platform.poll scrollWindow.world).1
  delivered := scrollDeliveries
  answer := .ok (.events [])
  slot := {}

/-- The turn in which the scrolling is taken. -/
def scrollTake (slot : Event) : Turn (Script.Stage Rat Unit) Rat Rat Unit where
  operation := some .takeScrollDelta
  batch := []
  delivered := []
  answer := .ok (.scroll (3 / 2, 4))
  slot

theorem scroll_poll : ∃ s, Step Script.devices scrollWindow scrollPoll s := by
  have hinner : Flatten scrollSettling.deferred
      [.plain ⟨some (.scrolled (1 / 2) (-3)), none⟩] :=
    show Flatten [_] _ from .plain rfl .nil
  have hflat : Flatten scrollPoll.batch scrollDeliveries :=
    .plain rfl
      (Flatten.resized (r := ⟨some (.resized ⟨0, 0⟩), none⟩) rfl hinner (.plain rfl .nil))
  have hpath : ∃ s, Path Script.devices scrollWindow.config.size
      (scrollWindow.inWorld (Script.devices.platform.poll scrollWindow.world).2)
      scrollDeliveries s :=
    ⟨_, .plain rfl (.resized rfl (.again rfl rfl rfl (.last rfl)) rfl rfl
      (.plain rfl (.plain rfl .nil)))⟩
  obtain ⟨s, hpath⟩ := hpath
  exact ⟨_, step_pollEvents ⟨rfl, rfl⟩ rfl (by decide +kernel) hflat hpath⟩

/-- All of it is taken at once, and nothing is left for the next time. -/
theorem scroll_taken_once_nested :
    ∃ s s' s'' slot, Course Script.devices {} scrollStage [scrollOpening, scrollPoll] s ∧
      exec (Operation.takeScrollDelta.perform Script.devices) s =
        (.ok (.scroll (3 / 2, 4)), s') ∧
      Course Script.devices {} scrollStage [scrollOpening, scrollPoll, scrollTake slot] s' ∧
      exec (Operation.takeScrollDelta.perform Script.devices) s' =
        (.ok (.scroll (0, 0)), s'') := by
  have hopen : Course Script.devices {} scrollStage [scrollOpening] scrollWindow :=
    opened_at_once (s := scrollWindow) ⟨640, 480⟩ rfl rfl rfl rfl rfl
  obtain ⟨s, hstep⟩ := scroll_poll
  have hpolled := hopen.next hstep
  obtain ⟨htake, -⟩ := scroll_taken_once hpolled rfl
  have hsum : sumFrom (Scalar.ofNat 0, Scalar.ofNat 0) (untaken ([scrollOpening] ++ [scrollPoll])) =
      ((3 / 2, 4) : Rat × Rat) := by
    decide +kernel
  rw [hsum] at htake
  have htaken := hpolled.next (.alone (a := .ok _) rfl htake)
  obtain ⟨hagain, -⟩ := scroll_taken_once htaken rfl
  exact ⟨s, _, _, s.events.current, hpolled, htake, htaken, hagain⟩

end Window

end WindowHost
