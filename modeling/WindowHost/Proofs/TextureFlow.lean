import WindowHost.Proofs.HostCursor
import WindowHost.Proofs.Record

/-!
# The flow of textures

With every frame that they end the widgets give out changes of the renderer's textures. A frame that
is drawn joins those that wait at the surface, and the next attempt to present takes them from
there. `Flow` shows what was given out, what waits and which textures there are, and a `FlowMove` is
what an operation does to them. Every operation is a list of moves, `flowMoves`, read off the window
before and after it.
-/

namespace WindowHost

namespace Gui

variable {T In P N C : Type}

/-- A toolkit that keeps a record of what its frames gave out, in the order in which they ended. -/
def Toolkit.recorded (k : Toolkit T In P N C) : Toolkit (T × List (Painted P N C)) In P N C where
  onEvent e t := (k.onEvent e t.1, t.2)
  takeInput size t :=
    let (input, toolkit) := k.takeInput size t.1
    (input, toolkit, t.2)
  beginFrame input t := (k.beginFrame input t.1, t.2)
  endFrame t :=
    let (output, toolkit) := k.endFrame t.1
    (output, toolkit, t.2 ++ [output.2])
  wantsMouse t := k.wantsMouse t.1
  wantsKeyboard t := k.wantsKeyboard t.1
  declare sub cache t :=
    let (values, cache, toolkit) := k.declare sub cache t.1
    (values, cache, toolkit, t.2)

end Gui

namespace Native

open Gui (Embedded Painted Textures Toolkit)
open Window

variable {T In P N C : Type}

/-! ## Moves -/

/-- What the widgets have given out, and what has become of it at the surface. -/
structure Flow (P N C : Type) where
  /-- What the frames of the widgets gave out, in the order in which they ended. -/
  emitted : List (Painted P N C) := []
  /-- Whether a frame of the widgets is open. -/
  frameOpen : Bool := false
  pending : Option (Painted P N C) := none
  textures : Textures N C := Textures.none
  /-- Whether the frame at hand was drawn. -/
  drawn : Bool := false

/-- What happens to the frames of the widgets and to the textures. -/
inductive FlowMove (P N C : Type) where
  /-- The widgets end a frame, and it is drawn. -/
  | drawn (frame : Painted P N C)
  /-- The surface is presented, or that fails. -/
  | presented (ok : Bool)
  /-- The next frame begins. A frame of the widgets that is still open is ended, and `left` is what
  it gives out. -/
  | turned (left : Option (Painted P N C))
  /-- A sub-window is declared while no frame of the widgets is open, and so one is opened. -/
  | reopened

namespace Flow

def move [DecidableEq N] (c : Flow P N C) : FlowMove P N C → Flow P N C
  | .drawn frame =>
    { c with
      emitted := c.emitted ++ [frame]
      frameOpen := false
      pending := some (c.pending.elim frame fun pending => pending.merge frame)
      drawn := true }
  | .presented ok =>
    { c with
      pending := none
      textures := if ok then c.pending.elim c.textures c.textures.afterPaint else c.textures }
  | .turned left =>
    { c with emitted := c.emitted ++ left.toList, frameOpen := true, drawn := false }
  | .reopened => { c with frameOpen := true }

/-- The next frame begins only after the one at hand was drawn, and what is left to the widgets then
is that of the frame which they have open. -/
def Allows (c : Flow P N C) : FlowMove P N C → Prop
  | .turned left => c.drawn = true ∧ left.isSome = c.frameOpen
  | _ => True

/-- Moves that lead from one flow to another. -/
inductive Leads [DecidableEq N] : Flow P N C → List (FlowMove P N C) → Flow P N C → Prop where
  | nil {c} : Leads c [] c
  | cons {c c' m moves} : c.Allows m → Leads (c.move m) moves c' → Leads c (m :: moves) c'

section Leads

variable [DecidableEq N] {c c' c'' : Flow P N C} {moves moves' : List (FlowMove P N C)}

theorem Leads.eq (h : Leads c moves c') : c' = moves.foldl move c := by
  induction h with
  | nil => rfl
  | cons _ _ ih => exact ih

theorem Leads.append (h : Leads c moves c') (h' : Leads c' moves' c'') :
    Leads c (moves ++ moves') c'' := by
  induction h with
  | nil => exact h'
  | cons hallows _ ih => exact .cons hallows (ih h')

theorem Leads.allows (h : Leads c moves c') {before : List (FlowMove P N C)} {m : FlowMove P N C}
    (hbefore : before ++ [m] <+: moves) : (before.foldl move c).Allows m := by
  induction before generalizing c moves with
  | nil =>
    cases h with
    | nil => exact absurd (List.prefix_nil.1 hbefore) (List.cons_ne_nil _ _)
    | cons hallows _ =>
      obtain ⟨rfl, -⟩ := List.cons_prefix_cons.1 hbefore
      exact hallows
  | cons b before ih =>
    cases h with
    | nil => exact absurd (List.prefix_nil.1 hbefore) (List.cons_ne_nil _ _)
    | cons _ hrest =>
      obtain ⟨rfl, htail⟩ := List.cons_prefix_cons.1 hbefore
      exact ih hrest htail

theorem leads_single {m : FlowMove P N C} (hallows : c.Allows m) (h : c' = c.move m) :
    Leads c [m] c' :=
  h ▸ .cons hallows .nil

theorem leads_nil (h : c' = c) : Leads c [] c' := h ▸ .nil

end Leads

end Flow

/-- A desktop with widgets that keep a record of what they give out. -/
abbrev TexturedDesktop (T P N C : Type) := Desktop (T × List (Painted P N C)) P N C

abbrev TexturedWindow (T P N C : Type) := DeskWindow (T × List (Painted P N C)) P N C

/-- The flow of textures in a window on a desktop. -/
def flowOf (s : TexturedWindow T P N C) : Flow P N C where
  emitted := s.world.gui.toolkit.2
  frameOpen := s.world.gui.frameOpen
  pending := s.world.surface.pending
  textures := s.world.surface.textures
  drawn := s.drawn

/-- Whether one of the next two requests for a texture of the surface is answered with one. -/
def Surface.grants (surface : Surface P N C) : Bool :=
  surface.gpu.acquires.headD .good = .good || surface.gpu.acquires.tail.headD .good = .good

variable (k : Toolkit T In P N C)

/-- What the widgets give out if their frame ends now. -/
def output (w : TexturedDesktop T P N C) : Painted P N C :=
  ((Desktop.widgets k.recorded).endFrame w).1

/-- What the widgets have given out last, if they had a frame open that was closed. -/
def leftover (opened : Bool) (w : TexturedDesktop T P N C) : Option (Painted P N C) :=
  if opened then w.gui.toolkit.2.getLast? else none

/-- The move of a frame that is drawn only if that was not done yet. -/
def drawnMoves (s : TexturedWindow T P N C) : List (FlowMove P N C) :=
  if s.drawn then [] else [.drawn (output k s.world)]

/-- The move with which the next frame begins. A frame of the widgets is open then if one was open
before, and nothing had to be drawn. -/
def turnedMove (s s' : TexturedWindow T P N C) : FlowMove P N C :=
  .turned (leftover (s.drawn && s.world.gui.frameOpen) s'.world)

/-- The moves of a read: the frame at hand is drawn, and the next one begins if the window is never
shown. -/
def readFlow (s s' : TexturedWindow T P N C) (ok : Bool) : List (FlowMove P N C) :=
  drawnMoves k s ++ if ok && !s.config.showWindow then [turnedMove s s'] else []

/-- The moves of a show; the next frame begins only if it succeeds. -/
def showFlow (s s' : TexturedWindow T P N C) (ok : Bool) : List (FlowMove P N C) :=
  if s.config.showWindow then
    drawnMoves k s ++ .presented s.world.surface.grants :: if ok then [turnedMove s s'] else []
  else []

/-- What an operation does to the flow of textures, given the window before and after it, and
whether it succeeds. -/
def flowMoves (op : Operation (TexturedDesktop T P N C)) (s s' : TexturedWindow T P N C)
    (ok : Bool) : List (FlowMove P N C) :=
  match op with
  | .showFrame => showFlow k s s' ok
  | .drawFrame => [.drawn (output k s.world)]
  | .dumpImage | .writeImage _ | .copyDepth _ => readFlow k s s' ok
  | .outside _ => if s.world.gui.frameOpen = s'.world.gui.frameOpen then [] else [.reopened]
  | _ => []

/-! ## Single steps -/

section Steps

theorem openFrame_recorded (size : Extent) (g : Embedded (T × List (Painted P N C))) :
    ∃ toolkit, g.openFrame k.recorded size =
      { g with toolkit := (toolkit, g.toolkit.2), frameOpen := true } := by
  unfold Embedded.openFrame
  split
  · rename_i hopen
    exact ⟨g.toolkit.1, by rw [← hopen]⟩
  · exact ⟨_, rfl⟩

/-- Ending a frame of the widgets does nothing to the surface. -/
theorem endFrame_surface (w : Desktop T P N C) :
    ((Desktop.widgets k).endFrame w).2.surface = w.surface := by
  obtain ⟨visible, icon, log, hobeyed⟩ := obeyed_eq
    { w with gui := (w.gui.endFrame k w.display.framebuffer).2 }
    (w.gui.endFrame k w.display.framebuffer).1.2
  have hsurface := congrArg Desktop.surface hobeyed
  exact hsurface

/-- Ending a frame of the widgets puts what it gives out into their record. -/
theorem endFrame_gui (w : TexturedDesktop T P N C) :
    ((Desktop.widgets k.recorded).endFrame w).2.gui.toolkit.2 =
        w.gui.toolkit.2 ++ [output k w] ∧
      ((Desktop.widgets k.recorded).endFrame w).2.gui.frameOpen = false := by
  obtain ⟨visible, icon, log, hobeyed⟩ := obeyed_eq
    { w with gui := (w.gui.endFrame k.recorded w.display.framebuffer).2 }
    (w.gui.endFrame k.recorded w.display.framebuffer).1.2
  have hgui : ((Desktop.widgets k.recorded).endFrame w).2.gui =
      (w.gui.endFrame k.recorded w.display.framebuffer).2 := congrArg Desktop.gui hobeyed
  obtain ⟨toolkit, hopen⟩ := openFrame_recorded k w.display.framebuffer w.gui
  rw [hgui]
  simp only [output, Desktop.widgets, Embedded.endFrame, hopen, and_true]
  rfl

/-- Closing the frame of the widgets that is open, and opening the next one. -/
theorem prepare_gui (w : TexturedDesktop T P N C) :
    (w.gui.prepare k.recorded w.display.framebuffer).toolkit.2 = w.gui.toolkit.2 ++
        (leftover w.gui.frameOpen
          { w with gui := w.gui.prepare k.recorded w.display.framebuffer }).toList ∧
      (leftover w.gui.frameOpen
        { w with gui := w.gui.prepare k.recorded w.display.framebuffer }).isSome =
          w.gui.frameOpen ∧
      (w.gui.prepare k.recorded w.display.framebuffer).frameOpen = true := by
  unfold Embedded.prepare leftover
  rcases w.gui.frameOpen with _ | _
  · obtain ⟨toolkit, hopen⟩ := openFrame_recorded k w.display.framebuffer
      { w.gui with cache := w.gui.cache.endFrame }
    rw [if_neg Bool.false_ne_true]
    dsimp only
    rw [hopen]
    simp
  · obtain ⟨toolkit, hopen⟩ := openFrame_recorded k w.display.framebuffer
      { w.gui with
        toolkit := (k.recorded.endFrame w.gui.toolkit).2
        frameOpen := false
        cache := w.gui.cache.endFrame }
    rw [if_pos rfl]
    dsimp only
    rw [hopen]
    simp [Toolkit.recorded]

theorem aloof_flow : Aloof (flowOf : TexturedWindow T P N C → Flow P N C) :=
  ⟨fun _ _ _ => rfl, fun _ _ => rfl, fun _ _ => rfl, fun _ _ _ _ _ => rfl, fun _ _ _ => rfl⟩

variable [DecidableEq N] (s : TexturedWindow T P N C)

theorem exec_drawFrame_flow :
    ∃ s', exec (drawFrame (Desktop.devices k.recorded)) s = (.ok (), s') ∧
      flowOf s' = (flowOf s).move (.drawn (output k s.world)) ∧
      s'.world.surface.grants = s.world.surface.grants ∧ s'.config = s.config := by
  let ended := ((Desktop.widgets k.recorded).endFrame s.world).2
  have hsurface : ended.surface = s.world.surface := endFrame_surface k.recorded s.world
  have hgrants : ended.surface.grants = s.world.surface.grants := by rw [hsurface]
  obtain ⟨hemitted, hclosed⟩ := endFrame_gui k s.world
  refine ⟨{ s with world := (Desktop.renderer.draw (output k s.world) ended).2, drawn := true },
    rfl, ?_, hgrants, rfl⟩
  have hpending : (ended.surface.draw (output k s.world)).pending = some
      (s.world.surface.pending.elim (output k s.world) fun pending =>
        pending.merge (output k s.world)) := by
    rw [hsurface, Surface.draw]
    rcases s.world.surface.pending with _ | pending <;> rfl
  have htextures : ended.surface.textures = s.world.surface.textures := by rw [hsurface]
  show (⟨ended.gui.toolkit.2, ended.gui.frameOpen, (ended.surface.draw (output k s.world)).pending,
    ended.surface.textures, true⟩ : Flow P N C) = _
  rw [hpending, htextures, hemitted, hclosed]
  rfl

/-- Between two windows the next frame has begun, and what was left to the widgets is that of the
frame which they had open. -/
structure Begins (s s' : TexturedWindow T P N C) : Prop where
  flow : flowOf s' = (flowOf s).move (.turned (leftover s.world.gui.frameOpen s'.world))
  left : (leftover s.world.gui.frameOpen s'.world).isSome = s.world.gui.frameOpen

variable {s} in
theorem Begins.leads {s' : TexturedWindow T P N C} {c : Flow P N C} {opened : Bool}
    (h : Begins s s') (hflow : flowOf s = c) (hdrawn : c.drawn = true)
    (hopen : c.frameOpen = opened) :
    c.Leads [.turned (leftover opened s'.world)] (flowOf s') := by
  subst hflow hopen
  exact Flow.leads_single ⟨hdrawn, h.left⟩ h.flow

/-- Making sure that the frame at hand was drawn. Then a frame of the widgets is open only if one
was, and nothing had to be drawn. -/
theorem exec_ensureDrawn_flow :
    ∃ s', exec (ensureDrawn (Desktop.devices k.recorded)) s = (.ok (), s') ∧
      (flowOf s).Leads (drawnMoves k s) (flowOf s') ∧ s'.drawn = true ∧
      s'.world.gui.frameOpen = (s.drawn && s.world.gui.frameOpen) ∧
      s'.world.surface.grants = s.world.surface.grants ∧ s'.config = s.config := by
  rw [ensureDrawn, exec_bind_of_ok (exec_get s), drawnMoves]
  rcases hdrawn : s.drawn with _ | _
  · obtain ⟨s', hexec, hflow, hgrants, hconfig⟩ := exec_drawFrame_flow k s
    exact ⟨s', hexec, Flow.leads_single trivial hflow, congrArg Flow.drawn hflow,
      congrArg Flow.frameOpen hflow, hgrants, hconfig⟩
  · exact ⟨s, rfl, .nil, hdrawn, rfl, rfl, rfl⟩

theorem exec_prepareForNextFrame_flow :
    ∃ s', exec (prepareForNextFrame (Desktop.devices k.recorded)) s = (.ok (), s') ∧
      Begins s s' := by
  obtain ⟨hemitted, hleft, hopen⟩ := prepare_gui k s.world
  refine ⟨{ s with
    world :=
      { s.world with
        surface := s.world.surface.prepare
        gui := s.world.gui.prepare k.recorded s.world.display.framebuffer }
    drawn := false }, rfl, ?_, hleft⟩
  show (⟨(s.world.gui.prepare k.recorded s.world.display.framebuffer).toolkit.2,
    (s.world.gui.prepare k.recorded s.world.display.framebuffer).frameOpen,
    s.world.surface.pending, s.world.surface.textures, false⟩ : Flow P N C) = _
  rw [hemitted, hopen]
  rfl

theorem paint_eq (frame : Option (Painted P N C)) (surface : Surface P N C) :
    ∃ entries, surface.paint frame = (entries,
      { surface with
        textures := frame.elim surface.textures surface.textures.afterPaint
        shown := frame.map surface.painting }) := by
  rcases frame with _ | frame <;> exact ⟨_, rfl⟩

/-- An attempt to present takes the frames that wait in any case, and paints them if the surface
grants a texture. -/
theorem present_eq (surface : Surface P N C) :
    ∃ entries gpu, surface.present = ((entries, if surface.grants then .ok () else
        .error (.surface SurfaceFault.notAcquired.message)),
      { surface with
        gpu
        pending := none
        textures := if surface.grants then
          surface.pending.elim surface.textures surface.textures.afterPaint
        else surface.textures
        shown := if surface.grants then surface.pending.map surface.painting
        else surface.shown }) := by
  unfold Surface.grants
  by_cases hfirst : surface.gpu.acquires.headD .good = .good
  · obtain ⟨entries, hpaint⟩ := paint_eq surface.pending { surface with
      gpu := { surface.gpu with acquires := surface.gpu.acquires.tail }, pending := none }
    simp only [Surface.present, Surface.acquire, hfirst, hpaint, decide_true, Bool.true_or, if_true]
    exact ⟨_, _, rfl⟩
  · by_cases hsecond : surface.gpu.acquires.tail.headD .good = .good
    · obtain ⟨entries, hpaint⟩ := paint_eq surface.pending { surface with
        gpu := { surface.gpu with acquires := surface.gpu.acquires.tail.tail }, pending := none }
      simp only [Surface.present, Surface.acquire, hfirst, hsecond, hpaint, decide_true,
        Bool.or_true, if_true, if_false]
      exact ⟨_, _, rfl⟩
    · simp only [Surface.present, Surface.acquire, hfirst, hsecond, decide_false, Bool.or_self,
        Bool.false_eq_true, if_false]
      exact ⟨_, _, rfl⟩

theorem flowOf_present :
    flowOf (s.inWorld ((Desktop.devices k.recorded).renderer.present s.world).2) =
      (flowOf s).move (.presented s.world.surface.grants) := by
  obtain ⟨entries, gpu, hpresent⟩ := present_eq s.world.surface
  show flowOf (s.inWorld (Desktop.onSurface Surface.present s.world).2) = _
  rw [Desktop.onSurface, hpresent]
  rfl

/-- Pumping leaves the flow of textures as it is. -/
theorem deaf_flow :
    Deaf (Desktop.devices k.recorded) (flowOf : TexturedWindow T P N C → Flow P N C) where
  poll _ := rfl
  wait _ := rfl
  read _ := rfl
  forward _ _ := rfl
  resize s size := by
    show flowOf (s.inWorld (Desktop.onSurface (Surface.resize size) s.world).2) = _
    simp only [Desktop.onSurface, Surface.resize]
    split
    · rfl
    · split
      · rfl
      · split <;> rfl
  land _ _ _ := rfl
  withSize _ _ := rfl

/-- What follows the pump in a show changes the flow by the beginning of the next frame. -/
theorem exec_turnFrame_flow :
    ∃ s', exec (Operation.turnFrame (Desktop.devices k.recorded)) s = (.ok (), s') ∧
      Begins s s' := by
  obtain ⟨s₁, s₂, s', hexec, hprepare, h₁, h₂⟩ := aloof_flow.exec_turnFrame k.recorded s
  obtain ⟨s₃, hprepare', hturned, hleft⟩ := exec_prepareForNextFrame_flow k s₁
  obtain rfl : s₃ = s₂ := (Prod.mk.inj (hprepare'.symm.trans hprepare)).2
  have hopen : s₁.world.gui.frameOpen = s.world.gui.frameOpen := congrArg Flow.frameOpen h₁
  have hsame : leftover s₁.world.gui.frameOpen s₃.world =
      leftover s.world.gui.frameOpen s'.world := by
    have hemitted : s₃.world.gui.toolkit.2 = s'.world.gui.toolkit.2 :=
      congrArg Flow.emitted h₂.symm
    unfold leftover
    rw [hopen, hemitted]
  rw [hsame, h₁] at hturned
  rw [hsame, hopen] at hleft
  exact ⟨s', hexec, h₂.trans hturned, hleft⟩

end Steps

/-! ## Operations -/

section Operations

variable [DecidableEq N] {s s' : TexturedWindow T P N C}

/-- Reading the frame at hand. -/
theorem leads_read {r t : Type}
    {f : TexturedDesktop T P N C → Except BackendError r × TexturedDesktop T P N C}
    (hf : ∀ s : TexturedWindow T P N C, flowOf (s.inWorld (f s.world).2) = flowOf s) {g : r → t}
    {res : Except Halt t}
    (h : exec (Operation.readFrame (Desktop.devices k.recorded) f g) s = (res, s')) :
    (flowOf s).Leads (readFlow k s s' res.isOk) (flowOf s') := by
  obtain ⟨s₁, hdraw, hleads, hdrawn, hopen, -, hconfig⟩ := exec_ensureDrawn_flow k s
  have hkeep := hf s₁
  rw [Operation.readFrame, exec_bind_of_ok hdraw] at h
  rcases hread : f s₁.world with ⟨e | x, w⟩
  · rw [hread] at hkeep
    rw [exec_bind_of_error (exec_attempt_error hread)] at h
    obtain ⟨rfl, rfl⟩ := Prod.mk.inj h
    exact hleads.append (Flow.leads_nil hkeep)
  · rw [hread] at hkeep
    rw [exec_bind_of_ok (exec_attempt_ok hread), exec_bind, exec_finishRead_eq, inWorld_config,
      hconfig] at h
    rw [readFlow]
    rcases hshow : s.config.showWindow with _ | _
    · obtain ⟨s₂, hprepare, hbegins⟩ := exec_prepareForNextFrame_flow k (s₁.inWorld w)
      rw [if_neg (by rw [hshow]; exact Bool.false_ne_true), hprepare] at h
      obtain ⟨rfl, rfl⟩ := Prod.mk.inj h
      exact hleads.append (hbegins.leads hkeep hdrawn hopen)
    · rw [if_pos hshow] at h
      obtain ⟨rfl, rfl⟩ := Prod.mk.inj h
      exact hleads.append (Flow.leads_nil hkeep)

/-- What comes before the pump of a show draws the frame at hand if need be, and presents it. -/
theorem leads_lead {res : Except Halt Unit} (hshow : s.config.showWindow = true)
    (h : exec (Operation.lead (Desktop.devices k.recorded) .showFrame) s = (res, s')) :
    (flowOf s).Leads (drawnMoves k s ++ [.presented s.world.surface.grants]) (flowOf s') ∧
      s'.drawn = true ∧ s'.world.gui.frameOpen = (s.drawn && s.world.gui.frameOpen) := by
  obtain ⟨s₁, hdraw, hleads, hdrawn, hopen, hgrants, -⟩ := exec_ensureDrawn_flow k s
  have hpresented := flowOf_present k s₁
  rw [Operation.lead, exec_bind_of_ok (exec_requireVisible_ok hshow _), exec_bind_of_ok hdraw,
    exec_attempt] at h
  obtain ⟨-, rfl⟩ := Prod.mk.inj h
  rw [hgrants] at hpresented
  exact ⟨hleads.append (Flow.leads_single trivial hpresented), hdrawn,
    (congrArg Flow.frameOpen hpresented).trans hopen⟩

theorem leads_showFrame (hs : s.Wired) {a : Except WindowError (Answer Float Float32)}
    (h : exec (Operation.perform (Desktop.devices k.recorded) .showFrame) s =
      (Except.mapError .failed a, s')) :
    (flowOf s).Leads (showFlow k s s' a.isOk) (flowOf s') := by
  unfold showFlow
  by_cases hshow : s.config.showWindow = true
  · rw [if_pos hshow, List.append_cons]
    have hpumping := Operation.pumping rfl h
    generalize hres : Except.mapError Halt.failed a = res at hpumping
    cases hpumping with
    | refused hlead =>
      obtain ⟨e, -, rfl⟩ := failed_of_mapError hres.symm
      exact (leads_lead k hshow hlead).1.append .nil
    | broken hlead hpump =>
      obtain ⟨e, -, rfl⟩ := failed_of_mapError hres.symm
      have hpumped := (deaf_flow k).keeps_pump _ (hs.lead hlead)
      rw [hpump] at hpumped
      exact (leads_lead k hshow hlead).1.append (Flow.leads_nil hpumped)
    | @finished s₁ s₂ res s' hlead hpump htail =>
      obtain ⟨hleads, hdrawn, hopen⟩ := leads_lead k hshow hlead
      have hpumped := (deaf_flow k).keeps_pump _ (hs.lead hlead)
      rw [hpump] at hpumped
      obtain ⟨s₃, hturn, hbegins⟩ := exec_turnFrame_flow k s₂
      have hlast : exec (Operation.tail (Desktop.devices k.recorded) .showFrame) s₂ =
          (.ok .done, s₃) := by
        rw [Operation.tail, exec_bind_of_ok hturn]
        rfl
      rw [hlast] at htail
      obtain ⟨rfl, rfl⟩ := Prod.mk.inj htail
      obtain rfl := ok_of_mapError hres.symm
      exact hleads.append (hbegins.leads hpumped hdrawn hopen)
  · rw [if_neg hshow]
    rw [Operation.perform_pumps _ rfl, Operation.lead, exec_bind_of_error
      (exec_bind_of_error (exec_requireVisible_error hshow _) _)] at h
    obtain ⟨-, rfl⟩ := Prod.mk.inj h
    exact .nil

theorem flowOf_poll {op : Operation (TexturedDesktop T P N C)} {operation : SurfaceOperation}
    (hop : op.pumps = true)
    (hlead : op.lead (Desktop.devices k.recorded) =
      (requireVisible operation : WindowM _ Float Float32 Unit))
    (htail : Keeps (flowOf : TexturedWindow T P N C → Flow P N C)
      (op.tail (Desktop.devices k.recorded)))
    (hs : s.Wired) {res : Except Halt (Answer Float Float32)}
    (h : exec (op.perform (Desktop.devices k.recorded)) s = (res, s')) :
    flowOf s' = flowOf s := by
  have hpump := (deaf_flow k).keeps_pump _ hs
  rw [Operation.perform_pumps _ hop, hlead] at h
  by_cases hshow : s.config.showWindow = true
  · rw [exec_bind_of_ok (exec_requireVisible_ok hshow _), exec_bind] at h
    rcases hpumped : exec (pump (Desktop.devices k.recorded)) s with ⟨e | ⟨⟩, s₁⟩
    · rw [hpumped] at h hpump
      obtain ⟨-, rfl⟩ := Prod.mk.inj h
      exact hpump
    · rw [hpumped] at h hpump
      exact (htail.eq h).trans hpump
  · rw [exec_bind_of_error (exec_requireVisible_error hshow _)] at h
    obtain ⟨-, rfl⟩ := Prod.mk.inj h
    rfl

theorem flowOf_idle {op : Operation (TexturedDesktop T P N C)} (hop : op.pumps = false)
    (hframe : op.isFrameWork = false) (hout : op.isOutside = false)
    {res : Except Halt (Answer Float Float32)}
    (h : exec (op.perform (Desktop.devices k.recorded)) s = (res, s')) :
    flowOf s' = flowOf s := by
  have hkeep : Keeps (flowOf : TexturedWindow T P N C → Flow P N C)
      (op.perform (Desktop.devices k.recorded)) :=
    Operation.keeps_idle (fun _ _ => rfl) (fun _ _ => rfl) (fun _ _ => rfl) (fun _ => rfl) hop
      hframe hout
  exact hkeep.eq h

/-- From outside, sub-windows may be declared; else the frames of the widgets, those that wait and
the textures are left alone. -/
def Admitted : Operation (TexturedDesktop T P N C) → Prop
  | .outside f => ∀ s : TexturedWindow T P N C, flowOf (s.inWorld (f s.world)) = flowOf s ∨
      flowOf (s.inWorld (f s.world)) = (flowOf s).move .reopened
  | _ => True

theorem admitted_subWindow (sub : Gui.SubWindow) :
    Admitted (.outside fun w : TexturedDesktop T P N C => (w.subWindow k.recorded sub).2) := by
  intro s
  obtain ⟨toolkit, hopen⟩ := openFrame_recorded k s.world.display.framebuffer s.world.gui
  refine .inr ?_
  simp only [Desktop.subWindow, Embedded.declare, hopen]
  rfl

theorem admitted_enqueue (batches : List Batch) :
    Admitted (.outside fun w : TexturedDesktop T P N C => w.enqueue batches) :=
  fun _ => .inl rfl

theorem leads_outside {f : TexturedDesktop T P N C → TexturedDesktop T P N C}
    (hf : Admitted (.outside f)) (s : TexturedWindow T P N C) :
    (flowOf s).Leads (flowMoves k (.outside f) s (s.inWorld (f s.world)) true)
      (flowOf (s.inWorld (f s.world))) := by
  show (flowOf s).Leads
    (if s.world.gui.frameOpen = (f s.world).gui.frameOpen then [] else [FlowMove.reopened]) _
  rcases hf s with hsame | hopened
  · have hopen : s.world.gui.frameOpen = (f s.world).gui.frameOpen :=
      congrArg Flow.frameOpen hsame.symm
    rw [if_pos hopen]
    exact Flow.leads_nil hsame
  · have hopen : (f s.world).gui.frameOpen = true := congrArg Flow.frameOpen hopened
    rw [hopen]
    split
    · -- a frame that is open already is not opened again
      rename_i hsame
      refine Flow.leads_nil (hopened.trans ?_)
      simp [Flow.move, flowOf, hsame]
    · exact Flow.leads_single trivial hopened

/-- What an operation does to the flow of textures is its list of moves. -/
theorem leads_perform {op : Operation (TexturedDesktop T P N C)} (hop : Admitted op)
    (hs : s.Wired) {a : Except WindowError (Answer Float Float32)}
    (h : exec (op.perform (Desktop.devices k.recorded)) s = (Except.mapError .failed a, s')) :
    (flowOf s).Leads (flowMoves k op s s' a.isOk) (flowOf s') := by
  cases op with
  | showFrame => exact leads_showFrame k hs h
  | drawFrame =>
    obtain ⟨s₁, hdraw, hflow, -⟩ := exec_drawFrame_flow k s
    rw [Operation.perform, exec_bind_of_ok hdraw] at h
    obtain ⟨-, rfl⟩ := Prod.mk.inj h
    exact Flow.leads_single trivial hflow
  | dumpImage =>
    rw [Operation.perform_dumpImage] at h
    exact isOk_mapError a ▸ leads_read k (fun _ => rfl) h
  | writeImage path =>
    rw [Operation.perform_writeImage] at h
    refine isOk_mapError a ▸ leads_read k (fun s => ?_) h
    simp only [Desktop.devices, Desktop.renderer]
    split <;> rfl
  | copyDepth target =>
    rw [Operation.perform_copyDepth] at h
    exact isOk_mapError a ▸ leads_read k (fun _ => rfl) h
  | pollEvents | pollOneEvent =>
    exact Flow.leads_nil (flowOf_poll k rfl rfl (keeps_modifyGet fun _ => rfl) hs h)
  | outside f =>
    obtain ⟨-, rfl⟩ := Prod.mk.inj h
    exact leads_outside k hop s
  | _ => exact Flow.leads_nil (flowOf_idle k rfl rfl rfl h)

end Operations

/-! ## Runs -/

section Runs

variable [DecidableEq N]

/-- A window that was opened on a desktop and then used, with the moves of its textures. -/
inductive Supplied (toolkit : T) (config : Config) (display : Display) (gpu : Gpu) :
    List (FlowMove P N C) → TexturedWindow T P N C → Prop where
  | opened {s} :
      (Desktop.launch k.recorded (toolkit, []) config display gpu).outcome = .ok s →
      Supplied toolkit config display gpu [.turned none] s
  | next {moves s} (op : Operation (TexturedDesktop T P N C))
      (a : Except WindowError (Answer Float Float32)) {s'} :
      Supplied toolkit config display gpu moves s → Admitted op →
      exec (op.perform (Desktop.devices k.recorded)) s = (Except.mapError .failed a, s') →
      Supplied toolkit config display gpu (moves ++ flowMoves k op s s' a.isOk) s'

variable {k} {toolkit : T} {config : Config} {display : Display} {gpu : Gpu}
  {moves : List (FlowMove P N C)} {s : TexturedWindow T P N C}

theorem Supplied.next_moves (h : Supplied k toolkit config display gpu moves s)
    (op : Operation (TexturedDesktop T P N C)) (a : Except WindowError (Answer Float Float32))
    {s' : TexturedWindow T P N C} {next : List (FlowMove P N C)} (hop : Admitted op)
    (hexec : exec (op.perform (Desktop.devices k.recorded)) s = (Except.mapError .failed a, s'))
    (hmoves : flowMoves k op s s' a.isOk = next) :
    Supplied k toolkit config display gpu (moves ++ next) s' :=
  hmoves ▸ .next op a h hop hexec

theorem Supplied.reached (h : Supplied k toolkit config display gpu moves s) :
    ∃ world, Reached (Desktop.devices k.recorded) config world s := by
  induction h with
  | opened hlaunch =>
    obtain ⟨world, s₀, hopen, rfl, -⟩ := launch_ok hlaunch
    exact ⟨world, .next (.outside fun w => { w with log := [] }) (.ok .done) (.opened hopen) rfl⟩
  | next op a _ _ hexec ih =>
    obtain ⟨world, hreached⟩ := ih
    exact ⟨world, .next op a hreached hexec⟩

/-- Opening a window begins the first frame. -/
theorem flowOf_openWith {world : TexturedDesktop T P N C}
    (hfresh : Fresh (toolkit, []) display world)
    (h : openWith (Desktop.devices k.recorded) config world = (.ok (), s)) :
    flowOf s = Flow.move {} (.turned none) := by
  obtain ⟨-, ds, s₁, hends, hprepare⟩ := openWith_ends h
  have hopened : flowOf s₁ = {} := by
    rw [hends.keeps (deaf_flow k)]
    simp only [flowOf, fresh, hfresh.gui, hfresh.pending, hfresh.textures]
  obtain ⟨s₂, hprepare', hturned, -⟩ := exec_prepareForNextFrame_flow k s₁
  obtain rfl : s₂ = s := (Prod.mk.inj (hprepare'.symm.trans hprepare)).2
  have hopen : s₁.world.gui.frameOpen = false := congrArg Flow.frameOpen hopened
  rw [hopened, hopen] at hturned
  exact hturned

/-- After the opening, the moves of a run lead to the flow at its end. -/
theorem Supplied.leads (h : Supplied k toolkit config display gpu moves s) :
    ∃ later, moves = .turned none :: later ∧
      (Flow.move {} (.turned none)).Leads later (flowOf s) := by
  induction h with
  | opened hlaunch =>
    obtain ⟨world, s₀, hopen, rfl, hfresh⟩ := launch_ok hlaunch
    have hopened := flowOf_openWith hfresh hopen
    exact ⟨[], rfl, Flow.leads_nil hopened⟩
  | next op a hrun hop hexec ih =>
    obtain ⟨world, hreached⟩ := hrun.reached
    obtain ⟨later, rfl, hleads⟩ := ih
    exact ⟨_, rfl, hleads.append (leads_perform k hop hreached.wired hexec)⟩

theorem Supplied.flowOf_eq (h : Supplied k toolkit config display gpu moves s) :
    flowOf s = moves.foldl Flow.move {} := by
  obtain ⟨later, rfl, hleads⟩ := h.leads
  exact hleads.eq

end Runs

end Native

end WindowHost
