import WindowHost.Native.Desktop
import WindowHost.Proofs.Course

/-!
# The native cursor of a window on a desktop

Four parties keep a state about one native cursor: the arbiter, the widgets with their suppression,
the forwarding of their cursor, and the layer that writes it. `CursorState` collects the four with
the native cursor itself, and a `CursorMove` is what an operation of the window does to them. Every
operation is a list of moves, `cursorMoves`, read off the window before and after it.
-/

namespace WindowHost.Native

open Cursor (Applied Arbiter GuiCursor NativeIcon Request Shape Sink WidgetIcon)
open Gui (CursorCommand CursorWriter Embedded Forwarding Toolkit)

/-! ## States -/

/-- The native cursor and all that decides what is written to it. -/
structure CursorState where
  arbiter : Arbiter := {}
  visible : Bool := true
  icon : NativeIcon := .default
  writer : CursorWriter := {}
  forwarding : Forwarding := {}
  /-- What the widgets asked for in the last frame that ended, as the arbiter reads it. -/
  desired : GuiCursor := .default
  suppressed : Bool := false
  /-- Whether the frame at hand was drawn. -/
  drawn : Bool := false
  deriving DecidableEq, Repr

/-- What happens to a native cursor and to those that write it. -/
inductive CursorMove where
  /-- The widgets end a frame in which they ask for that cursor. -/
  | ended (requested : WidgetIcon)
  /-- Events were pumped, after which the pointer is in the window or not. -/
  | pumped (inside : Bool)
  /-- A frame was shown and the next one begins, where the widgets use the mouse or not. -/
  | turned (wantsMouse : Bool)
  /-- The next frame begins without a show. -/
  | prepared
  /-- The host program asks for a cursor. -/
  | asked (request : Request)
  deriving DecidableEq, Repr

/-! ## The layers under the widgets -/

theorem write_eq (c : CursorWriter) (icon : WidgetIcon) :
    c.write icon =
      (if c.written ≠ some icon ∧ c.pointerInside then CursorCommand.showing icon else [],
        { c with
          written := if c.written = some icon ∨ c.pointerInside then some icon else none }) := by
  unfold CursorWriter.write
  split
  · rename_i hsame
    simp [← hsame]
  · rename_i hnew
    split <;> simp_all

theorem forward_fst (f : Forwarding) (requested : WidgetIcon) (suppressed : Bool) :
    (f.forward requested suppressed).1 = if suppressed then f.last else requested := by
  unfold Forwarding.forward
  split <;> rfl

theorem takeReclaim_forward (f : Forwarding) (requested : WidgetIcon) (suppressed : Bool) :
    (f.forward requested suppressed).2.takeReclaim suppressed =
      (!suppressed && f.reclaimPending, if suppressed then f else ⟨requested, false⟩) := by
  rcases f with ⟨last, pending⟩
  rcases suppressed with _ | _ <;> rcases pending with _ | _ <;> rfl

/-! ## Moves -/

/-- What a change of the driver writes to a display that has all shapes. -/
def changes (previous next : Applied) : List CursorCommand :=
  if previous = next then []
  else
    match next with
    | .userHidden => [.setVisible false]
    | .userShape shape => [.setVisible true, .setIcon shape.icon]
    | .guiControlled => if previous = .userHidden then [.setVisible true] else []

namespace CursorState

def obey (c : CursorState) : CursorCommand → CursorState
  | .setVisible value => { c with visible := value }
  | .setIcon icon => { c with icon }

def endFrame (requested : WidgetIcon) (c : CursorState) : CursorState :=
  let (handed, forwarding) := c.forwarding.forward requested c.suppressed
  let (commands, writer) := c.writer.write handed
  let (due, forwarding) := forwarding.takeReclaim c.suppressed
  let commands := commands ++ if due then CursorCommand.showing requested else []
  commands.foldl obey { c with writer, forwarding, desired := requested.wish, drawn := true }

/-- The widgets are told when they drive the cursor again. -/
def handBack (previous next : Applied) (c : CursorState) : CursorState :=
  if next = .guiControlled ∧ previous ≠ .guiControlled then
    { c with forwarding := c.forwarding.reclaim }
  else c

def verdict (wantsMouse : Bool) (c : CursorState) : Applied :=
  Cursor.verdict c.arbiter.request ⟨c.desired, wantsMouse⟩

/-- The arbiter settles who drives the cursor. -/
def settle (wantsMouse : Bool) (c : CursorState) : CursorState :=
  let next := c.verdict wantsMouse
  let settled := { c with arbiter := { c.arbiter with applied := next } }
  ((changes c.arbiter.applied next).foldl obey settled).handBack c.arbiter.applied next

/-- The next frame begins after a show: the widgets are suppressed or freed before the arbiter
settles who drives the cursor. -/
def turn (wantsMouse : Bool) (c : CursorState) : CursorState :=
  settle wantsMouse { c with suppressed := c.arbiter.suppressesGui, drawn := false }

def move (c : CursorState) : CursorMove → CursorState
  | .ended requested => c.endFrame requested
  | .pumped inside => { c with writer := { c.writer with pointerInside := inside } }
  | .turned wantsMouse => c.turn wantsMouse
  | .prepared => { c with drawn := false }
  | .asked request => { c with arbiter := c.arbiter.setRequest request }

theorem foldl_obey_eq (c : CursorState) (commands : List CursorCommand) :
    ∃ visible icon, commands.foldl obey c = { c with visible, icon } := by
  induction commands generalizing c with
  | nil => exact ⟨_, _, rfl⟩
  | cons command commands ih =>
    obtain ⟨visible, icon, hrest⟩ := ih (c.obey command)
    refine ⟨visible, icon, ?_⟩
    rw [List.foldl_cons, hrest]
    cases command <;> rfl

theorem turn_eq (wantsMouse : Bool) (c : CursorState) :
    ∃ visible icon, c.turn wantsMouse =
      { c with
        arbiter := { c.arbiter with applied := c.verdict wantsMouse }
        visible
        icon
        forwarding :=
          if c.verdict wantsMouse = .guiControlled ∧ c.arbiter.applied ≠ .guiControlled then
            c.forwarding.reclaim
          else c.forwarding
        suppressed := c.arbiter.suppressesGui
        drawn := false } := by
  obtain ⟨visible, icon, hchanges⟩ := foldl_obey_eq
    { c with
      arbiter := { c.arbiter with applied := c.verdict wantsMouse }
      suppressed := c.arbiter.suppressesGui
      drawn := false }
    (changes c.arbiter.applied (c.verdict wantsMouse))
  have hturn := congrArg (handBack c.arbiter.applied (c.verdict wantsMouse)) hchanges
  refine ⟨visible, icon, hturn.trans ?_⟩
  simp only [handBack]
  split <;> rfl

theorem turn_writer (wantsMouse : Bool) (c : CursorState) :
    (c.turn wantsMouse).writer = c.writer := by
  obtain ⟨visible, icon, hturn⟩ := turn_eq wantsMouse c
  rw [hturn]

theorem turn_drawn (wantsMouse : Bool) (c : CursorState) : (c.turn wantsMouse).drawn = false := by
  obtain ⟨visible, icon, hturn⟩ := turn_eq wantsMouse c
  rw [hturn]

theorem turn_applied (wantsMouse : Bool) (c : CursorState) :
    (c.turn wantsMouse).arbiter.applied = c.verdict wantsMouse := by
  obtain ⟨visible, icon, hturn⟩ := turn_eq wantsMouse c
  rw [hturn]

theorem turn_last (wantsMouse : Bool) (c : CursorState) :
    (c.turn wantsMouse).forwarding.last = c.forwarding.last := by
  obtain ⟨visible, icon, hturn⟩ := turn_eq wantsMouse c
  rw [hturn]
  dsimp only
  split <;> rfl

end CursorState

/-! ## The moves of an operation -/

variable {T In P N C : Type}

abbrev DeskWindow (T P N C : Type) := Window (Desktop T P N C) Float Float32

/-- The native cursor of a window on a desktop. -/
def cursorOf (s : DeskWindow T P N C) : CursorState where
  arbiter := s.cursor
  visible := s.world.display.cursorVisible
  icon := s.world.display.cursorIcon
  writer := s.world.gui.writer
  forwarding := s.world.gui.forwarding
  desired := s.world.gui.desired
  suppressed := s.world.gui.suppressed
  drawn := s.drawn

variable (k : Toolkit T In P N C)

/-- The cursor that the widgets ask for if their frame ends now. -/
def requested (w : Desktop T P N C) : WidgetIcon :=
  (k.endFrame (w.gui.openFrame k w.display.framebuffer).toolkit).1.1

/-- The move of a frame that ends only if it was not drawn yet. -/
def ensuredMoves (s : DeskWindow T P N C) : List CursorMove :=
  if s.drawn then [] else [.ended (requested k s.world)]

/-- The moves of a read: the frame at hand is drawn, and ended if the window is never shown. -/
def readMoves (s : DeskWindow T P N C) (ok : Bool) : List CursorMove :=
  ensuredMoves k s ++ if ok && !s.config.showWindow then [CursorMove.prepared] else []

/-- The moves of a show; it pumps at most once, and turns only if it succeeds. -/
def showMoves (s s' : DeskWindow T P N C) (ok : Bool) : List CursorMove :=
  if s.config.showWindow then
    ensuredMoves k s ++ CursorMove.pumped s'.world.gui.writer.pointerInside ::
      if ok then [CursorMove.turned (k.wantsMouse s'.world.gui.toolkit)] else []
  else []

/-- What an operation does to the native cursor, given the window before and after it, and whether
it succeeds. -/
def cursorMoves (op : Operation (Desktop T P N C)) (s s' : DeskWindow T P N C) (ok : Bool) :
    List CursorMove :=
  match op with
  | .showFrame => showMoves k s s' ok
  | .drawFrame => [.ended (requested k s.world)]
  | .dumpImage | .writeImage _ | .copyDepth _ => readMoves k s ok
  | .pollEvents _ | .pollOneEvent _ =>
    if s.config.showWindow then [.pumped s'.world.gui.writer.pointerInside] else []
  | .setCursor index force =>
    match Request.ofIndex index force with
    | .ok request => if ok then [.asked request] else []
    | .error _ => []
  | .setCursorRequest request => if ok then [.asked request] else []
  | _ => []

/-! ## Single steps -/

open Window

/-- A change of the devices that leaves alone the native cursor and what decides on it. -/
def Aside (f : Desktop T P N C → Desktop T P N C) : Prop :=
  ∀ s : DeskWindow T P N C, cursorOf (s.inWorld (f s.world)) = cursorOf s

theorem aside_subWindow (sub : Gui.SubWindow) :
    Aside fun w : Desktop T P N C => (w.subWindow k sub).2 := by
  intro s
  simp only [Desktop.subWindow, Embedded.declare, Embedded.openFrame]
  split <;> rfl

theorem aside_enqueue (batches : List Batch) :
    Aside fun w : Desktop T P N C => w.enqueue batches := fun _ => rfl

theorem aside_mapSurface (f : Surface P N C → Surface P N C) :
    Aside fun w : Desktop T P N C => w.mapSurface f := fun _ => rfl

section Steps

variable (s : DeskWindow T P N C)

theorem cursorOf_obey (w : Desktop T P N C) (command : CursorCommand) :
    cursorOf (s.inWorld (w.obey command)) = (cursorOf (s.inWorld w)).obey command := by
  cases command <;> rfl

theorem cursorOf_foldl_obey (w : Desktop T P N C) (commands : List CursorCommand) :
    cursorOf (s.inWorld (commands.foldl Desktop.obey w)) =
      commands.foldl CursorState.obey (cursorOf (s.inWorld w)) := by
  induction commands generalizing w with
  | nil => rfl
  | cons command commands ih => rw [List.foldl_cons, List.foldl_cons, ih, cursorOf_obey]

theorem openFrame_eq (size : Extent) (g : Embedded T) :
    ∃ toolkit, g.openFrame k size = { g with toolkit, frameOpen := true } := by
  unfold Embedded.openFrame
  split
  · rename_i hopen
    exact ⟨g.toolkit, by rw [← hopen]⟩
  · exact ⟨_, rfl⟩

theorem prepare_eq (size : Extent) (g : Embedded T) :
    ∃ toolkit, g.prepare k size =
      { g with toolkit, cache := g.cache.endFrame, frameOpen := true } := by
  unfold Embedded.prepare
  split
  · exact openFrame_eq k size _
  · exact openFrame_eq k size _

variable [DecidableEq N]

/-- Ending a frame on a desktop does not fail. -/
theorem exec_drawFrame : ∃ s', exec (drawFrame (Desktop.devices k)) s = (.ok (), s') ∧
    cursorOf s' = (cursorOf s).endFrame (requested k s.world) ∧ s'.config = s.config := by
  refine ⟨_, rfl, ?_, rfl⟩
  obtain ⟨toolkit, hopen⟩ := openFrame_eq k s.world.display.framebuffer s.world.gui
  have hwritten := cursorOf_foldl_obey { s with drawn := true }
    { s.world with gui := (s.world.gui.endFrame k s.world.display.framebuffer).2 }
    (s.world.gui.endFrame k s.world.display.framebuffer).1.2
  refine Eq.trans hwritten ?_
  simp only [Embedded.endFrame, CursorState.endFrame, requested, hopen]
  rfl

theorem exec_ensureDrawn : ∃ s', exec (ensureDrawn (Desktop.devices k)) s = (.ok (), s') ∧
    cursorOf s' = (ensuredMoves k s).foldl CursorState.move (cursorOf s) ∧
    s'.config = s.config := by
  rw [ensureDrawn, exec_bind_of_ok (exec_get s), ensuredMoves]
  rcases hdrawn : s.drawn with _ | _
  · obtain ⟨s', hexec, hcursor, hconfig⟩ := exec_drawFrame k s
    exact ⟨s', hexec, hcursor, hconfig⟩
  · exact ⟨s, rfl, rfl, rfl⟩

theorem exec_prepareForNextFrame :
    ∃ s', exec (prepareForNextFrame (Desktop.devices k)) s = (.ok (), s') ∧
      cursorOf s' = (cursorOf s).move .prepared ∧ s'.config = s.config := by
  refine ⟨_, rfl, ?_, rfl⟩
  obtain ⟨toolkit, hprepare⟩ := prepare_eq k s.world.display.framebuffer s.world.gui
  show cursorOf (({ s with drawn := false }).inWorld
    { s.world with
      surface := s.world.surface.prepare
      gui := s.world.gui.prepare k s.world.display.framebuffer }) = _
  rw [hprepare]
  rfl

theorem exec_finishRead :
    ∃ s', exec (finishRead (Desktop.devices k)) s = (.ok (), s') ∧
      cursorOf s' = (if s.config.showWindow then [] else [.prepared]).foldl CursorState.move
        (cursorOf s) := by
  rw [finishRead, exec_bind_of_ok (exec_get s)]
  rcases hshow : s.config.showWindow with _ | _
  · obtain ⟨s', hexec, hcursor, -⟩ := exec_prepareForNextFrame k s
    exact ⟨s', hexec, hcursor⟩
  · exact ⟨s, rfl, rfl⟩

theorem exec_pace : ∃ s', exec (pace (Desktop.devices k)) s = (.ok (), s') ∧
    cursorOf s' = cursorOf s := by
  refine ⟨_, rfl, ?_⟩
  simp only [Pacing.Pacer.pace]
  split <;> rfl

theorem exec_countFrame : ∃ s', exec (countFrame (Desktop.devices k)) s = (.ok (), s') ∧
    cursorOf s' = cursorOf s := by
  rw [countFrame, exec_bind_of_ok (exec_get s)]
  rcases (s.rate.tick ((Desktop.devices k).clock.now s.world) : Option Float × _)
    with ⟨_ | average, rate⟩
  · exact ⟨_, rfl, rfl⟩
  · exact ⟨_, rfl, rfl⟩

omit [DecidableEq N] in
theorem apply_eq (previous next : Applied) (w : Desktop T P N C) :
    Desktop.platform.cursor.apply previous next w =
      (changes previous next).foldl Desktop.obey w := by
  unfold Sink.apply changes
  split
  · rfl
  · cases next with
    | guiControlled =>
      dsimp only
      split <;> rfl
    | _ => rfl

omit [DecidableEq N] in
/-- Changes of the native cursor leave all else on the desktop as it is, but for the log. -/
theorem obeyed_eq (w : Desktop T P N C) (commands : List CursorCommand) :
    ∃ cursorVisible cursorIcon log, commands.foldl Desktop.obey w =
      { w with display := { w.display with cursorVisible, cursorIcon }, log } := by
  induction commands generalizing w with
  | nil => exact ⟨_, _, _, rfl⟩
  | cons command commands ih =>
    obtain ⟨visible, icon, log, hrest⟩ := ih (w.obey command)
    refine ⟨visible, icon, log, ?_⟩
    rw [List.foldl_cons, hrest]
    cases command <;> rfl

/-- Settling the cursor on a desktop does not fail. -/
theorem exec_settleCursor :
    ∃ s', exec (settleCursor (Desktop.devices k)) s = (.ok (), s') ∧
      cursorOf s' = (cursorOf s).settle (k.wantsMouse s.world.gui.toolkit) ∧
      s'.world.gui.toolkit = s.world.gui.toolkit := by
  let next := Cursor.verdict s.cursor.request (signal (Desktop.devices k) s.world)
  let s₁ : DeskWindow T P N C := { s with cursor := { s.cursor with applied := next } }
  let w := (changes s.cursor.applied next).foldl Desktop.obey s.world
  have hcursor : cursorOf (s₁.inWorld w) = _ := cursorOf_foldl_obey s₁ s.world _
  have hgui : w.gui = s.world.gui := by
    obtain ⟨visible, icon, log, hobeyed⟩ := obeyed_eq s.world (changes s.cursor.applied next)
    rw [show w = _ from hobeyed]
  have harbitrate : s.cursor.arbitrate (signal (Desktop.devices k) s.world)
      (Desktop.devices k).platform.cursor s.world = (s₁.cursor, w) :=
    Prod.ext rfl (apply_eq s.cursor.applied next s.world)
  rw [settleCursor, exec_bind_of_ok (exec_get s), harbitrate]
  dsimp only
  rw [exec_bind_of_ok (exec_set _ _)]
  have hsettle : (cursorOf s).settle (k.wantsMouse s.world.gui.toolkit) =
      (cursorOf (s₁.inWorld w)).handBack s.cursor.applied next :=
    congrArg (CursorState.handBack s.cursor.applied next) hcursor.symm
  rw [hsettle, CursorState.handBack]
  by_cases hback : next = .guiControlled ∧ s.cursor.applied ≠ .guiControlled
  · rw [if_pos hback, if_pos hback]
    exact ⟨_, rfl, rfl, (congrArg Embedded.toolkit hgui :)⟩
  · rw [if_neg hback, if_neg hback]
    exact ⟨_, rfl, rfl, (congrArg Embedded.toolkit hgui :)⟩

/-- What follows the pump in a show does not fail. -/
theorem exec_turnFrame :
    ∃ s', exec (Operation.turnFrame (Desktop.devices k)) s = (.ok (), s') ∧
      cursorOf s' = (cursorOf s).turn (k.wantsMouse s'.world.gui.toolkit) := by
  obtain ⟨s₁, hpace, h₁⟩ := exec_pace k s
  obtain ⟨s₂, hcount, h₂⟩ := exec_countFrame k s₁
  let s₃ := s₂.inWorld ((Desktop.devices k).gui.suppressCursor s₂.cursor.suppressesGui s₂.world)
  obtain ⟨s₄, hprepare, h₄, -⟩ := exec_prepareForNextFrame k s₃
  obtain ⟨s₅, hsettle, h₅, htoolkit⟩ := exec_settleCursor k s₄
  refine ⟨s₅, ?_, ?_⟩
  · rw [Operation.turnFrame, exec_bind_of_ok hpace, exec_bind_of_ok hcount,
      exec_bind_of_ok (exec_get s₂), exec_bind_of_ok (exec_act s₂ _), exec_bind_of_ok hprepare,
      hsettle]
  · rw [h₅, htoolkit, h₄, ← h₁, ← h₂]
    rfl

/-- On a desktop no wait is given up while there are batches left. -/
theorem patient_desktop : Patient (Desktop.devices k : Devices (Desktop T P N C) Float _ _) where
  read _ := Nat.le_refl _
  wait w _ := by
    show w.display.batches.tail.length ≤ w.display.batches.length - 1
    exact Nat.le_of_eq List.length_tail
  forward _ _ := Nat.le_refl _
  resize _ _ := Nat.le_refl _
  last w hw hempty := by
    have hnone : w.display.batches = [] := List.length_eq_zero_iff.1 hw
    refine hopeless_of_steady
      (P := fun w => w.display.batches = [] ∧ w.display.framebuffer.isEmpty = true)
      (fun _ hw => ⟨hw.2, hw⟩) (fun w hw => ?_) ⟨hnone, hempty⟩
    obtain ⟨hbatches, hframebuffer⟩ := hw
    refine ⟨congrArg List.tail hbatches, ?_⟩
    show ((w.display.batches.headD {}).arrivals.foldl Arrival.sizeAfter
      w.display.framebuffer).isEmpty = true
    rw [hbatches]
    exact hframebuffer

/-- Pumping changes nothing but whether the pointer is in the window. -/
theorem deaf_pointer :
    Deaf (Desktop.devices k) fun s : DeskWindow T P N C => (cursorOf s).move (.pumped false) where
  poll _ := rfl
  wait _ := rfl
  read _ := rfl
  forward s raw := by cases raw <;> rfl
  resize _ _ := rfl
  land _ _ _ := rfl
  withSize _ _ := rfl

end Steps

/-! ## Operations -/

section Operations

variable [DecidableEq N] {s s' : DeskWindow T P N C}

omit [DecidableEq N] in
theorem pumped_of_eq {c c' : CursorState} (h : c'.move (.pumped false) = c.move (.pumped false)) :
    c' = c.move (.pumped c'.writer.pointerInside) := by
  rcases c with ⟨_, _, _, ⟨_, _⟩, _, _, _, _⟩
  rcases c' with ⟨_, _, _, ⟨_, _⟩, _, _, _, _⟩
  simp_all [CursorState.move]

theorem cursorOf_pump (hs : s.Wired) {res : Except Halt Unit}
    (h : exec (pump (Desktop.devices k)) s = (res, s')) :
    cursorOf s' = (cursorOf s).move (.pumped s'.world.gui.writer.pointerInside) := by
  have hkeep := (deaf_pointer k).keeps_pump _ hs
  rw [h] at hkeep
  exact pumped_of_eq hkeep

/-- Reading the frame at hand draws it if need be, and ends it if the window is never shown. -/
theorem cursorOf_read {r t : Type} {f : Desktop T P N C → Except BackendError r × Desktop T P N C}
    (hf : Aside fun w => (f w).2) {g : r → t} {res : Except Halt t}
    (h : exec (do
      ensureDrawn (Desktop.devices k)
      let x ← attempt f
      finishRead (Desktop.devices k)
      pure (g x)) s = (res, s')) :
    cursorOf s' = (readMoves k s res.isOk).foldl CursorState.move (cursorOf s) := by
  obtain ⟨s₁, hdraw, hcursor, hconfig⟩ := exec_ensureDrawn k s
  have hkeep := hf s₁
  rw [exec_bind_of_ok hdraw] at h
  rw [readMoves, List.foldl_append, ← hcursor, ← hconfig, ← hkeep]
  rcases hf₁ : f s₁.world with ⟨e | x, w⟩
  · rw [exec_bind_of_error (exec_attempt_error hf₁)] at h
    obtain ⟨rfl, rfl⟩ := Prod.mk.inj h
    simp [hf₁, Except.isOk, Except.toBool]
  · rw [exec_bind_of_ok (exec_attempt_ok hf₁)] at h
    obtain ⟨s₂, hfinish, hcursor₂⟩ := exec_finishRead k (s₁.inWorld w)
    rw [exec_bind_of_ok hfinish] at h
    obtain ⟨rfl, rfl⟩ := Prod.mk.inj h
    rw [hcursor₂]
    rcases hshow : s₁.config.showWindow with _ | _ <;>
      simp [hshow, hf₁, Except.isOk, Except.toBool]

/-- What comes before the pump of a show draws the frame at hand if need be. -/
theorem cursorOf_lead {res : Except Halt Unit} (hshow : s.config.showWindow = true)
    (h : exec (Operation.lead (Desktop.devices k) .showFrame) s = (res, s')) :
    cursorOf s' = (ensuredMoves k s).foldl CursorState.move (cursorOf s) := by
  obtain ⟨s₁, hdraw, hcursor, -⟩ := exec_ensureDrawn k s
  rw [Operation.lead, exec_bind_of_ok (exec_requireVisible_ok hshow _), exec_bind_of_ok hdraw,
    exec_attempt] at h
  obtain ⟨rfl, rfl⟩ := Prod.mk.inj h
  exact hcursor

theorem cursorOf_showFrame (hs : s.Wired) {a : Except WindowError (Answer Float Float32)}
    (h : exec (Operation.perform (Desktop.devices k) .showFrame) s =
      (Except.mapError .failed a, s')) :
    cursorOf s' = (showMoves k s s' a.isOk).foldl CursorState.move (cursorOf s) := by
  unfold showMoves
  split
  · rename_i hshow
    rw [List.foldl_append]
    have hpumping := Operation.pumping rfl h
    generalize hres : Except.mapError Halt.failed a = res at hpumping
    cases hpumping with
    | refused hlead =>
      obtain ⟨e, -, rfl⟩ := failed_of_mapError hres.symm
      rw [← cursorOf_lead k hshow hlead]
      rfl
    | broken hlead hpump =>
      obtain ⟨e, -, rfl⟩ := failed_of_mapError hres.symm
      rw [← cursorOf_lead k hshow hlead]
      exact cursorOf_pump k (hs.lead hlead) hpump
    | @finished s₁ s₂ res s' hlead hpump htail =>
      obtain ⟨s₃, hturn, hcursor⟩ := exec_turnFrame k s₂
      have hlast : exec (Operation.tail (Desktop.devices k) .showFrame) s₂ = (.ok .done, s₃) := by
        rw [Operation.tail, exec_bind_of_ok hturn]
        rfl
      rw [hlast] at htail
      obtain ⟨rfl, rfl⟩ := Prod.mk.inj htail
      obtain rfl := ok_of_mapError hres.symm
      have hpumped := cursorOf_pump k (hs.lead hlead) hpump
      have hwriter : s₃.world.gui.writer = s₂.world.gui.writer := by
        rw [show s₃.world.gui.writer = (cursorOf s₃).writer from rfl, hcursor,
          CursorState.turn_writer]
        rfl
      rw [← cursorOf_lead k hshow hlead, hcursor, hpumped, hwriter]
      rfl
  · rename_i hhidden
    rw [Operation.perform_pumps _ rfl, Operation.lead, exec_bind_of_error
      (exec_bind_of_error (exec_requireVisible_error hhidden _) _)] at h
    obtain ⟨-, rfl⟩ := Prod.mk.inj h
    rfl

theorem cursorOf_poll {op : Operation (Desktop T P N C)} {operation : SurfaceOperation}
    (hop : op.pumps = true)
    (hlead : op.lead (Desktop.devices k) =
      (requireVisible operation : WindowM (Desktop T P N C) Float Float32 Unit))
    (htail : Keeps cursorOf (op.tail (Desktop.devices k) : WindowM _ Float Float32 _))
    (hs : s.Wired) {res : Except Halt (Answer Float Float32)}
    (h : exec (op.perform (Desktop.devices k)) s = (res, s')) :
    cursorOf s' = (if s.config.showWindow then
      [CursorMove.pumped s'.world.gui.writer.pointerInside] else []).foldl CursorState.move
        (cursorOf s) := by
  rw [Operation.perform_pumps _ hop, hlead] at h
  split
  · rename_i hshow
    rw [exec_bind_of_ok (exec_requireVisible_ok hshow _)] at h
    rcases hpump : exec (pump (Desktop.devices k)) s with ⟨e | ⟨⟩, s₁⟩
    · rw [exec_bind_of_error hpump] at h
      obtain ⟨-, rfl⟩ := Prod.mk.inj h
      exact cursorOf_pump k hs hpump
    · rw [exec_bind_of_ok hpump] at h
      have hcursor : cursorOf s' = cursorOf s₁ := htail.eq h
      rw [List.foldl_cons, List.foldl_nil, hcursor, cursorOf_pump k hs hpump,
        show s'.world.gui.writer = s₁.world.gui.writer from congrArg CursorState.writer hcursor]
  · rename_i hhidden
    rw [exec_bind_of_error (exec_requireVisible_error hhidden _)] at h
    obtain ⟨-, rfl⟩ := Prod.mk.inj h
    rfl

omit [DecidableEq N] in
theorem cursorOf_ask {request : Request} {res : Except Halt (Answer Float Float32)}
    (h : exec (do
      requireVisible .setCursor
      modify fun s => { s with cursor := s.cursor.setRequest request }
      pure .done) s = (res, s')) :
    cursorOf s' = (if res.isOk then [CursorMove.asked request] else []).foldl CursorState.move
      (cursorOf s) := by
  by_cases hshow : s.config.showWindow = true
  · rw [exec_bind_of_ok (exec_requireVisible_ok hshow _)] at h
    obtain ⟨rfl, rfl⟩ := Prod.mk.inj h
    rfl
  · rw [exec_bind_of_error (exec_requireVisible_error hshow _)] at h
    obtain ⟨rfl, rfl⟩ := Prod.mk.inj h
    rfl

/-- An operation of the window itself, or one outside of it that leaves the cursor aside. -/
def Orderly : Operation (Desktop T P N C) → Prop
  | .outside f => Aside f
  | _ => True

theorem aside_writeImage (path : String) :
    Aside fun w => ((Desktop.devices k).renderer.writeImage path w).2 := by
  intro s
  simp only [Desktop.devices, Desktop.renderer]
  split <;> rfl

theorem cursorOf_dumpImage {res : Except Halt (Answer Float Float32)}
    (h : exec (Operation.perform (Desktop.devices k) .dumpImage) s = (res, s')) :
    cursorOf s' = (readMoves k s res.isOk).foldl CursorState.move (cursorOf s) := by
  refine cursorOf_read k (f := (Desktop.devices k).renderer.dump) (g := Answer.picture)
    (fun _ => rfl) ?_
  rw [← h]
  simp only [Operation.perform, dumpImage, map_bind, map_pure]

theorem cursorOf_writeImage {path : String} {res : Except Halt (Answer Float Float32)}
    (h : exec (Operation.perform (Desktop.devices k) (.writeImage path)) s = (res, s')) :
    cursorOf s' = (readMoves k s res.isOk).foldl CursorState.move (cursorOf s) := by
  refine cursorOf_read k (f := (Desktop.devices k).renderer.writeImage path)
    (g := fun _ => Answer.done) (aside_writeImage k path) ?_
  rw [← h]
  simp only [Operation.perform, writeImage, bind_assoc]

theorem cursorOf_copyDepth {target : Array Float32} {res : Except Halt (Answer Float Float32)}
    (h : exec (Operation.perform (Desktop.devices k) (.copyDepth target)) s = (res, s')) :
    cursorOf s' = (readMoves k s res.isOk).foldl CursorState.move (cursorOf s) := by
  refine cursorOf_read k (f := (Desktop.devices k).renderer.copyDepth target) (g := Answer.depth)
    (fun _ => rfl) ?_
  rw [← h]
  simp only [Operation.perform, copyDepth, map_bind, map_pure]

theorem cursorOf_setCursor {index : Int32} {force : Bool}
    {res : Except Halt (Answer Float Float32)}
    (h : exec (Operation.perform (Desktop.devices k) (.setCursor index force)) s = (res, s')) :
    cursorOf s' =
      (cursorMoves k (.setCursor index force) s s' res.isOk).foldl CursorState.move
        (cursorOf s) := by
  rcases hrequest : Request.ofIndex index force with e | request
  · simp only [cursorMoves, hrequest]
    have hkeep : Keeps cursorOf (Operation.perform (Desktop.devices k) (.setCursor index force) :
        WindowM (Desktop T P N C) Float Float32 _) := by
      refine Keeps.bind ((keeps_requireVisible _).bind fun _ => ?_) fun _ => keeps_pure _
      rw [hrequest]
      exact keeps_fail e
    exact hkeep.eq h
  · simp only [Operation.perform, setCursor, hrequest, bind_assoc] at h
    simp only [cursorMoves, hrequest]
    exact cursorOf_ask h

/-- What an operation does to the native cursor is its list of moves. -/
theorem cursorOf_perform {op : Operation (Desktop T P N C)} (hop : Orderly op) (hs : s.Wired)
    {a : Except WindowError (Answer Float Float32)}
    (h : exec (op.perform (Desktop.devices k)) s = (Except.mapError .failed a, s')) :
    cursorOf s' = (cursorMoves k op s s' a.isOk).foldl CursorState.move (cursorOf s) := by
  have kept (hkeep : Keeps cursorOf (op.perform (Desktop.devices k))) : cursorOf s' = cursorOf s :=
    hkeep.eq h
  cases op with
  | showFrame => exact cursorOf_showFrame k hs h
  | drawFrame =>
    obtain ⟨s₁, hdraw, hcursor, -⟩ := exec_drawFrame k s
    rw [Operation.perform, exec_bind_of_ok hdraw] at h
    obtain ⟨-, rfl⟩ := Prod.mk.inj h
    exact hcursor
  | dumpImage => exact isOk_mapError a ▸ cursorOf_dumpImage k h
  | writeImage path => exact isOk_mapError a ▸ cursorOf_writeImage k h
  | copyDepth target => exact isOk_mapError a ▸ cursorOf_copyDepth k h
  | pollEvents filter => exact cursorOf_poll k rfl rfl (keeps_modifyGet fun _ => rfl) hs h
  | pollOneEvent filter => exact cursorOf_poll k rfl rfl (keeps_modifyGet fun _ => rfl) hs h
  | setCursor index force => exact isOk_mapError a ▸ cursorOf_setCursor k h
  | setCursorRequest request =>
    simp only [Operation.perform, setCursorRequest, bind_assoc] at h
    exact isOk_mapError a ▸ cursorOf_ask h
  | outside f => exact kept ((keeps_act hop).bind fun _ => keeps_pure _)
  | requestStop stop =>
    exact kept ((keeps_get.bind fun _ => (keeps_act fun _ => rfl).ite (keeps_pure _)).bind
      fun _ => keeps_pure _)
  | takeScrollDelta =>
    exact kept (((keeps_requireVisible _).bind fun _ => keeps_modifyGet fun _ => rfl).map _)
  | cursorPosition | currentEvent | guiWantsMouse | guiWantsKeyboard =>
    exact kept (((keeps_requireVisible _).bind fun _ => keeps_get.bind fun _ => keeps_pure _).map _)
  | setCurrentEvent e =>
    have hset : Keeps cursorOf (modify fun s : DeskWindow T P N C =>
      { s with events := s.events.setCurrent e } : WindowM (Desktop T P N C) Float Float32 _) :=
      keeps_modify fun _ => rfl
    exact kept (((keeps_requireVisible _).bind fun _ => hset).bind fun _ => keeps_pure _)
  | isRunning | isPressed | isAnyPressed | appliedCursor | shape =>
    exact kept (keeps_get.bind fun _ => keeps_pure _)

end Operations

end WindowHost.Native
