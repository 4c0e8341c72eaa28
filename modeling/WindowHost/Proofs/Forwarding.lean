import Mathlib.Data.List.Induction
import WindowHost.Proofs.Passes

/-!
# What is forwarded, and when it is written

To the forwarding of a cursor, a history is a list of frames, in which the widgets are free or
suppressed, and of times at which the cursor was given back (`Act`). The forwarding keeps no more of
it than an icon and a mark: the icon of the last free frame (`last_after`), and whether the cursor
was given back since that frame (`reclaimPending_after`). `forwarded_and_reclaimed` says what every
frame then hands over and when it writes the cursor, and that embedded widgets which are asked for
anything hand over and write just that.
-/

namespace WindowHost.Gui

open Cursor (WidgetIcon)

namespace Forwarding

/-! ## Histories -/

/-- What happens to a forwarding: the cursor is given back, or a frame ends. -/
inductive Act where
  | reclaim
  | frame (requested : WidgetIcon) (suppressed : Bool)
  deriving DecidableEq, Repr

/-- What a frame does: it hands over an icon, and may be due to write the cursor besides. -/
structure Handover where
  handed : WidgetIcon
  due : Bool
  deriving DecidableEq, Repr

/-- A frame forwards the icon that was asked for, and then takes what is pending. -/
def frame (f : Forwarding) (requested : WidgetIcon) (suppressed : Bool) : Handover × Forwarding :=
  let (handed, f) := f.forward requested suppressed
  let (due, f) := f.takeReclaim suppressed
  (⟨handed, due⟩, f)

namespace Act

def perform (f : Forwarding) : Act → Forwarding
  | .reclaim => f.reclaim
  | .frame requested suppressed => (f.frame requested suppressed).2

def handover? (f : Forwarding) : Act → Option Handover
  | .reclaim => none
  | .frame requested suppressed => some (f.frame requested suppressed).1

/-- The icon that was asked for, if the act is a frame in which the widgets are free. -/
def free? : Act → Option WidgetIcon
  | .frame requested false => some requested
  | _ => none

end Act

/-- A new forwarding after some acts. -/
def after (acts : List Act) : Forwarding := acts.foldl Act.perform {}

/-- What the frames among some acts hand over. -/
def handovers (f : Forwarding) : List Act → List Handover
  | [] => []
  | act :: acts => (act.handover? f).toList ++ handovers (act.perform f) acts

/-- The cursor was given back, and there was no free frame since. -/
def GivenBack (acts : List Act) : Prop :=
  ∃ before later, acts = before ++ .reclaim :: later ∧ ∀ act ∈ later, act.free? = none

theorem after_append (acts later : List Act) :
    after (acts ++ later) = later.foldl Act.perform (after acts) := List.foldl_append

theorem handovers_append (f : Forwarding) (acts later : List Act) :
    f.handovers (acts ++ later) =
      f.handovers acts ++ (acts.foldl Act.perform f).handovers later := by
  induction acts generalizing f with
  | nil => rfl
  | cons act acts ih =>
    rw [List.cons_append, handovers, ih, handovers, List.append_assoc, List.foldl_cons]

/-! ## One act -/

theorem frame_eq (f : Forwarding) (requested : WidgetIcon) (suppressed : Bool) :
    f.frame requested suppressed =
      (⟨if suppressed then f.last else requested, !suppressed && f.reclaimPending⟩,
        if suppressed then f else ⟨requested, false⟩) := by
  have htaken := Native.takeReclaim_forward f requested suppressed
  rw [← Native.forward_fst]
  exact congrArg (fun taken => (Handover.mk _ taken.1, taken.2)) htaken

theorem last_perform (f : Forwarding) (act : Act) :
    (act.perform f).last = act.free?.getD f.last := by
  cases act with
  | reclaim => rfl
  | frame requested suppressed =>
    rw [Act.perform, frame_eq]
    cases suppressed <;> rfl

theorem reclaimPending_perform (f : Forwarding) (act : Act) :
    (act.perform f).reclaimPending = true ↔
      act = .reclaim ∨ act.free? = none ∧ f.reclaimPending = true := by
  cases act with
  | reclaim => simp [Act.perform, Forwarding.reclaim]
  | frame requested suppressed =>
    rw [Act.perform, frame_eq]
    cases suppressed <;> simp [Act.free?]

/-- A frame hands over the icon that it leaves to be repeated. -/
theorem last_frame (f : Forwarding) (requested : WidgetIcon) (suppressed : Bool) :
    (f.frame requested suppressed).2.last = (f.frame requested suppressed).1.handed := by
  rw [frame_eq]
  cases suppressed <;> rfl

/-- A frame that is due hands over its own icon. -/
theorem handed_of_due {f : Forwarding} {requested : WidgetIcon} {suppressed : Bool}
    (hdue : (f.frame requested suppressed).1.due = true) :
    (f.frame requested suppressed).1.handed = requested := by
  rw [frame_eq] at hdue ⊢
  cases suppressed with
  | false => rfl
  | true => cases hdue

/-! ## What is kept of a history -/

/-- The icon that is kept was asked for in the last free frame. -/
theorem last_after (acts : List Act) :
    (after acts).last = (acts.filterMap Act.free?).getLast?.getD .default := by
  induction acts using List.reverseRecOn with
  | nil => rfl
  | append_singleton acts act ih =>
    rw [after_append, List.foldl_cons, List.foldl_nil, last_perform, ih, List.filterMap_append]
    rcases hfree : act.free? with _ | icon <;> simp [hfree]

theorem givenBack_concat (acts : List Act) (act : Act) :
    GivenBack (acts ++ [act]) ↔ act = .reclaim ∨ act.free? = none ∧ GivenBack acts := by
  refine exists_split_concat.trans (or_congr (and_iff_left nofun) ?_)
  constructor
  · rintro ⟨before, later, hacts, hlater⟩
    obtain ⟨hlater, hact⟩ := List.forall_mem_append.1 hlater
    exact ⟨hact act (List.mem_singleton_self act), before, later, hacts, hlater⟩
  · rintro ⟨hact, before, later, hacts, hlater⟩
    exact ⟨before, later, hacts,
      List.forall_mem_append.2 ⟨hlater, List.forall_mem_singleton.2 hact⟩⟩

/-- The mark says whether the cursor was given back since the last free frame. -/
theorem reclaimPending_after (acts : List Act) :
    (after acts).reclaimPending = true ↔ GivenBack acts := by
  induction acts using List.reverseRecOn with
  | nil =>
    refine iff_of_false Bool.false_ne_true ?_
    rintro ⟨before, later, hacts, -⟩
    simp at hacts
  | append_singleton acts act ih =>
    rw [after_append, List.foldl_cons, List.foldl_nil, reclaimPending_perform, ih,
      givenBack_concat]

/-- The icon that is kept was handed over in the last frame, free or not. -/
theorem last_after_handovers (acts : List Act) :
    (after acts).last =
      ((({} : Forwarding).handovers acts).getLast?.map Handover.handed).getD .default := by
  induction acts using List.reverseRecOn with
  | nil => rfl
  | append_singleton acts act ih =>
    rw [after_append, handovers_append, ← after]
    cases act with
    | reclaim => simpa [handovers, Act.handover?, Act.perform, Forwarding.reclaim] using ih
    | frame requested suppressed => simp [handovers, Act.handover?, Act.perform, last_frame]

/-- A frame that is not free repeats the icon that is kept, and is not due. -/
theorem handover?_of_suppressed {act : Act} (hact : act.free? = none) (f : Forwarding) :
    ∀ h ∈ act.handover? f, h = ⟨f.last, false⟩ := by
  cases act with
  | reclaim => nofun
  | frame requested suppressed =>
    cases suppressed with
    | false => cases hact
    | true =>
      intro h hmem
      rw [Act.handover?, frame_eq] at hmem
      exact (Option.some.inj hmem).symm

theorem handovers_of_suppressed {acts : List Act} (hacts : ∀ act ∈ acts, act.free? = none)
    (f : Forwarding) : ∀ h ∈ f.handovers acts, h = ⟨f.last, false⟩ := by
  induction acts generalizing f with
  | nil => nofun
  | cons act acts ih =>
    obtain ⟨hact, hrest⟩ := List.forall_mem_cons.1 hacts
    have hlast : (act.perform f).last = f.last := by rw [last_perform, hact, Option.getD_none]
    intro h hmem
    rcases List.mem_append.1 hmem with hnow | hlater
    · exact handover?_of_suppressed hact f h (Option.mem_toList.1 hnow)
    · rw [← hlast]
      exact ih hrest (act.perform f) h hlater

/-! ## What a frame does -/

/-- What a frame does after some acts: it hands over the icon of the last free frame, itself
included, and it is due exactly if it is free and the cursor was given back since the free frame
before it. -/
structure Follows (acts : List Act) (requested : WidgetIcon) (suppressed : Bool) (h : Handover) :
    Prop where
  handed : h.handed =
    ((acts ++ [Act.frame requested suppressed]).filterMap Act.free?).getLast?.getD .default
  due_iff : h.due = true ↔ suppressed = false ∧ GivenBack acts
  own : h.due = true → h.handed = requested

theorem follows_frame (acts : List Act) (requested : WidgetIcon) (suppressed : Bool) :
    Follows acts requested suppressed ((after acts).frame requested suppressed).1 where
  handed := by
    rw [← last_after, ← last_frame, after_append]
    rfl
  due_iff := by
    rw [frame_eq, ← reclaimPending_after]
    simp
  own := handed_of_due

end Forwarding

/-! ## Embedded widgets -/

namespace Embedded

variable {T In P N C : Type} (k : Toolkit T In P N C)

/-- The cursor that the widgets ask for if their frame ends now. -/
def requested (size : Extent) (g : Embedded T) : WidgetIcon :=
  (k.endFrame (g.openFrame k size).toolkit).1.1

/-- What an ask is to the forwarding. -/
def act? (g : Embedded T) : Ask → Option Forwarding.Act
  | .endFrame size => some (.frame (g.requested k size) g.suppressed)
  | .reclaim => some .reclaim
  | .event _ | .declare .. | .prepare _ | .suppress _ => none

/-- What some asks are to the forwarding. -/
def acts (g : Embedded T) : List Ask → List Forwarding.Act
  | [] => []
  | ask :: asks => (g.act? k ask).toList ++ acts (g.after k ask) asks

/-- What ending a frame now is to the forwarding. -/
def frame (size : Extent) (g : Embedded T) : Forwarding.Handover × Forwarding :=
  g.forwarding.frame (g.requested k size) g.suppressed

/-- Ending a frame hands an icon to the layer below, which writes it as it sees fit, and writes the
icon that was asked for besides if the frame is due. -/
theorem endFrame_eq_frame (size : Extent) (g : Embedded T) :
    (g.endFrame k size).1.2 = (g.writer.write (g.frame k size).1.handed).1 ++
        (if (g.frame k size).1.due then CursorCommand.showing (g.requested k size) else []) ∧
      (g.endFrame k size).2.writer = (g.writer.write (g.frame k size).1.handed).2 ∧
      (g.endFrame k size).2.forwarding = (g.frame k size).2 := by
  obtain ⟨toolkit, hopened⟩ := Native.openFrame_eq k size g
  simp only [endFrame, frame, requested, hopened]
  exact ⟨rfl, rfl, rfl⟩

theorem forwarding_after (g : Embedded T) (ask : Ask) :
    (g.after k ask).forwarding =
      (g.act? k ask).toList.foldl Forwarding.Act.perform g.forwarding := by
  cases ask with
  | event | suppress | reclaim => rfl
  | endFrame size => exact (g.endFrame_eq_frame k size).2.2
  | declare size sub =>
    obtain ⟨toolkit, hopened⟩ := Native.openFrame_eq k size g
    rw [after, declare, hopened]
    rfl
  | prepare size =>
    obtain ⟨toolkit, hprepared⟩ := Native.prepare_eq k size g
    rw [after, hprepared]
    rfl

/-- The forwarding of widgets that are asked for anything goes by the frames and reclaims alone. -/
theorem forwarding_run (toolkit : T) (asks : List Ask) :
    (run k toolkit asks).forwarding = .after (acts k { toolkit } asks) := by
  suffices hrun : ∀ g : Embedded T, (asks.foldl (after k) g).forwarding =
      (g.acts k asks).foldl Forwarding.Act.perform g.forwarding from hrun { toolkit }
  intro g
  induction asks generalizing g with
  | nil => rfl
  | cons ask asks ih =>
    rw [List.foldl_cons, ih, forwarding_after, acts, List.foldl_append]

/-- What the end of a frame with that handover writes and leaves on record. -/
structure Ends (size : Extent) (g : Embedded T) (h : Forwarding.Handover) : Prop where
  /-- The layer below writes what it is handed as it sees fit, and a frame that is due writes the
  icon that was asked for besides. -/
  commands : (g.endFrame k size).1.2 = (g.writer.write h.handed).1 ++
    if h.due then CursorCommand.showing (g.requested k size) else []
  writer : (g.endFrame k size).2.writer = (g.writer.write h.handed).2
  /-- In a frame that is due, what the layer below has on record is the icon that was written. It
  has nothing on record if that icon is new to it while the pointer is elsewhere. -/
  recorded : h.due = true → (g.endFrame k size).2.writer.written =
    if g.writer.written = some (g.requested k size) ∨ g.writer.pointerInside then
      some (g.requested k size)
    else none
  /-- Such a frame leaves no other cursor on screen. -/
  shown : h.due = true → ∀ display : Native.Display,
    (g.endFrame k size).1.2.foldl Native.Display.obey display =
      (CursorCommand.showing (g.requested k size)).foldl Native.Display.obey display

theorem foldl_showing_twice (icon : WidgetIcon) (display : Native.Display) :
    (CursorCommand.showing icon ++ CursorCommand.showing icon).foldl Native.Display.obey display =
      (CursorCommand.showing icon).foldl Native.Display.obey display := by
  unfold CursorCommand.showing
  cases icon.native? <;> rfl

theorem ends_frame (size : Extent) (g : Embedded T) :
    Ends k size g (g.frame k size).1 := by
  obtain ⟨hcommands, hwriter, -⟩ := g.endFrame_eq_frame k size
  have hown (hdue : (g.frame k size).1.due = true) :
      (g.frame k size).1.handed = g.requested k size := Forwarding.handed_of_due hdue
  refine ⟨hcommands, hwriter, fun hdue => ?_, fun hdue display => ?_⟩
  · rw [hwriter, hown hdue, Native.write_eq]
  · -- the layer below writes the same icon or nothing
    rw [hcommands, hown hdue, if_pos hdue, Native.write_eq]
    dsimp only
    split
    · exact foldl_showing_twice _ display
    · rfl

end Embedded

/-! ## What is forwarded and when it is written -/

open Forwarding (Act Follows Handover after)

/-- Through any history of a new forwarding, a frame hands over the icon that was asked for in the
last free frame, itself included, so that the icon stays what it was in the last frame as long as
no frame is free. A frame is due exactly if it is free and the cursor was given back since the free
frame before it, and then it hands over its own icon. Embedded widgets, whatever is asked of them,
end their frames so; when a frame is due, the icon it writes is the one on record below, if one
is. -/
theorem forwarded_and_reclaimed :
    (∀ acts requested suppressed,
      Follows acts requested suppressed ((after acts).frame requested suppressed).1) ∧
    (∀ acts stretch : List Act, (∀ act ∈ stretch, act.free? = none) →
      ∀ h ∈ (after acts).handovers stretch, h.due = false ∧
        h.handed =
          ((({} : Forwarding).handovers acts).getLast?.map Handover.handed).getD .default) ∧
    ∀ {T In P N C : Type} (k : Toolkit T In P N C) (toolkit : T) (asks : List Ask)
      (size : Extent),
      let g := Embedded.run k toolkit asks
      let f := after (Embedded.acts k { toolkit } asks)
      Embedded.Ends k size g (f.frame (g.requested k size) g.suppressed).1 := by
  refine ⟨Forwarding.follows_frame, fun acts stretch hstretch h hmem => ?_,
    fun k toolkit asks size => ?_⟩
  · obtain rfl := Forwarding.handovers_of_suppressed hstretch _ h hmem
    exact ⟨rfl, Forwarding.last_after_handovers acts⟩
  · dsimp only
    rw [← Embedded.forwarding_run]
    exact Embedded.ends_frame k size _

/-- A toolkit that asks for one cursor after the other, and shows nothing. -/
def asking : Toolkit (List WidgetIcon) Unit Unit Unit Unit where
  onEvent _ icons := icons
  takeInput _ icons := ((), icons)
  beginFrame _ icons := icons
  endFrame icons := ((icons.headD .default, ⟨(), [], [], 1⟩), icons.tail)
  wantsMouse _ := false
  wantsKeyboard _ := false
  declare _ c icons := ([], c, icons)

/-- The pointer comes into the window before a free frame, and the cursor is given back before a
suppressed one. -/
def askedFor : List Ask :=
  [.event (.cursorMoved 5 5), .endFrame ⟨2, 1⟩, .suppress true, .reclaim, .endFrame ⟨2, 1⟩,
    .suppress false]

/-- The suppressed frame repeats the text cursor. The free frame after it asks for that cursor
again, so that the layer below writes nothing, and writes it. -/
theorem forwarded_and_reclaimed_text :
    let g := Embedded.run asking [.text, .grab, .text] askedFor
    (∀ h ∈ (after [.frame .text false]).handovers [.reclaim, .frame .grab true],
      h.due = false ∧ h.handed = .text) ∧
    (g.endFrame asking ⟨2, 1⟩).1.2 = [.setVisible true, .setIcon .text] ∧
    (g.endFrame asking ⟨2, 1⟩).2.writer.written = some .text := by
  obtain ⟨hfollows, hrepeats, hends⟩ := forwarded_and_reclaimed
  have hframe := hfollows [.frame .text false, .reclaim, .frame .grab true] .text false
  have hdue := hframe.due_iff.2 ⟨rfl, [.frame .text false], [.frame .grab true], rfl, by decide⟩
  have hend := hends asking [.text, .grab, .text] askedFor ⟨2, 1⟩
  refine ⟨hrepeats [.frame .text false] [.reclaim, .frame .grab true] (by decide), ?_, ?_⟩
  · rw [hend.commands]
    rfl
  · rw [hend.recorded hdue]
    rfl

end WindowHost.Gui
