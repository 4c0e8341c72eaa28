import WindowHost.Proofs.NativeCursor

/-!
# Shows that succeed

A show on a desktop can fail when the surface gives out no texture or takes no new size. After its
pump it cannot, and what it does then to an `Aloof` view of the window is only to begin the next
frame. The `Outlook` of a window is what the next shows depend on, and `exec_showFrame_calm` is the
case in which nothing lies ahead that makes a show fail.
-/

namespace WindowHost

variable {W α β Raw Frame : Type}

namespace Window

variable [Scalar α] [Narrowing α β] (d : Devices W α Raw Frame)

/-- A report that tells of no new size is handed over. -/
def take (s : Window W α β) (r : Report α Raw) : Window W α β :=
  (s.inWorld (r.forward d.gui s.world)).land s.config.size r

theorem exec_forM_handle_plain (patience : Nat)
    (follow : List (Report α Raw) → WindowM W α β Unit) {reports : List (Report α Raw)}
    (hplain : ∀ r ∈ reports, r.isResize = false) {s : Window W α β} (hs : s.Wired) :
    exec (reports.forM (handle d patience follow)) s = (.ok (), reports.foldl (take d) s) := by
  induction reports generalizing s with
  | nil => rfl
  | cons r rs ih =>
    show exec (handle d patience follow r >>= fun _ => rs.forM (handle d patience follow)) s = _
    rw [exec_bind_of_ok (exec_handle_plain d hs (hplain r List.mem_cons_self) patience follow)]
    exact ih (fun r hr => hplain r (List.mem_cons_of_mem _ hr))
      (Wired.land (s := s.inWorld (r.forward d.gui s.world)) hs _ r)

/-- A batch that tells of no new size is handed over, and nothing can fail. -/
theorem exec_pump_plain {s : Window W α β} (hs : s.Wired)
    (hplain : ∀ r ∈ (d.platform.poll s.world).1, r.isResize = false) :
    exec (pump d) s = (.ok (), (d.platform.poll s.world).1.foldl (take d)
      (s.inWorld (d.platform.poll s.world).2)) := by
  rw [pump, exec_bind_of_ok (exec_ask _ _), exec_bind_of_ok (exec_get _)]
  generalize d.platform.patience _ = patience
  rcases patience with _ | patience <;> exact exec_forM_handle_plain d _ _ hplain hs

end Window
namespace Native

open Cursor (Applied)
open Gui (CursorCommand CursorWriter Embedded Toolkit)
open Window

variable {T In P N C : Type} (k : Toolkit T In P N C)

/-! ## The turn of a frame -/

/-- A view that shows nothing of the frame rate, the clock and the log, nor of who drives the native
cursor. -/
structure Aloof {γ : Type} (f : DeskWindow T P N C → γ) : Prop where
  paced : ∀ s pacer clock, f { s with pacer, world := { s.world with clock } } = f s
  counted : ∀ s rate, f { s with rate } = f s
  logged : ∀ s log, f (s.inWorld { s.world with log }) = f s
  steered : ∀ s cursor cursorVisible cursorIcon log, f { s with
    cursor
    world :=
      { s.world with display := { s.world.display with cursorVisible, cursorIcon }, log } } = f s
  heeded : ∀ s suppressed forwarding,
    f (s.inWorld { s.world with gui := { s.world.gui with suppressed, forwarding } }) = f s

section Aloof

variable [DecidableEq N] {γ : Type} {f : DeskWindow T P N C → γ} (hf : Aloof f)

include hf

theorem Aloof.keeps_pace :
    Keeps f (pace (Desktop.devices k) : WindowM (Desktop T P N C) Float Float32 Unit) := by
  refine keeps_modify fun s => ?_
  simp only [Pacing.Pacer.pace]
  split <;> exact hf.paced s _ _

theorem Aloof.keeps_countFrame :
    Keeps f (countFrame (Desktop.devices k) : WindowM (Desktop T P N C) Float Float32 Unit) := by
  intro s
  rw [countFrame, exec_bind_of_ok (exec_get s)]
  rcases (s.rate.tick ((Desktop.devices k).clock.now s.world) : Option Float × _)
    with ⟨_ | average, rate⟩
  · exact hf.counted s rate
  · exact (hf.logged { s with rate } _).trans (hf.counted s rate)

theorem Aloof.keeps_settleCursor :
    Keeps f (settleCursor (Desktop.devices k) : WindowM (Desktop T P N C) Float Float32 Unit) := by
  intro s
  let next := (s.cursor.arbitrate (signal (Desktop.devices k) s.world)
    (Desktop.devices k).platform.cursor s.world).1
  let world := (s.cursor.arbitrate (signal (Desktop.devices k) s.world)
    (Desktop.devices k).platform.cursor s.world).2
  have hset : f { s with cursor := next, world } = f s := by
    obtain ⟨visible, icon, log, hobeyed⟩ :=
      obeyed_eq s.world (changes s.cursor.applied next.applied)
    have hworld : world = _ := (apply_eq s.cursor.applied next.applied s.world).trans hobeyed
    rw [hworld]
    exact hf.steered s next visible icon log
  have hreclaim : Keeps f (act (Desktop.devices k).gui.reclaimCursor :
      WindowM (Desktop T P N C) Float Float32 Unit) := keeps_act fun s => hf.heeded s _ _
  rw [settleCursor, exec_bind_of_ok (exec_get s)]
  dsimp only
  rw [exec_bind_of_ok (exec_set _ _), ← hset]
  exact hreclaim.ite (keeps_pure _) _

/-- What follows the pump in a show does not fail, and but for the beginning of the next frame it
changes nothing that an aloof view shows. -/
theorem Aloof.exec_turnFrame (s : DeskWindow T P N C) :
    ∃ s₁ s₂ s', exec (Operation.turnFrame (Desktop.devices k)) s = (.ok (), s') ∧
      exec (prepareForNextFrame (Desktop.devices k)) s₁ = (.ok (), s₂) ∧
      f s₁ = f s ∧ f s' = f s₂ := by
  obtain ⟨s', hexec, -⟩ := Native.exec_turnFrame k s
  have hturn := hexec
  rw [Operation.turnFrame] at hturn
  obtain ⟨⟨⟩, s₁, hpace, hturn⟩ := exec_bind_ok hturn
  obtain ⟨⟨⟩, s₂, hcount, hturn⟩ := exec_bind_ok hturn
  rw [exec_bind_of_ok (exec_get s₂), exec_bind_of_ok (exec_act s₂ _)] at hturn
  obtain ⟨⟨⟩, s₃, hprepare, hsettle⟩ := exec_bind_ok hturn
  refine ⟨_, s₃, s', hexec, hprepare, ?_, (hf.keeps_settleCursor k).eq hsettle⟩
  have hsuppress := hf.heeded s₂ s₂.cursor.suppressesGui s₂.world.gui.forwarding
  exact (hsuppress.trans ((hf.keeps_countFrame k).eq hcount)).trans ((hf.keeps_pace k).eq hpace)

end Aloof

/-! ## Shows without a failure -/

/-- What decides how the next shows go: whether there is a surface, what the display and the
graphics processor will bring, and whether the pointer is in the window. -/
structure Outlook where
  shown : Bool
  batches : List Batch
  acquires : List Acquire
  inside : Bool

/-- The outlook of a window on a desktop. -/
def outlook (s : DeskWindow T P N C) : Outlook where
  shown := s.config.showWindow
  batches := s.world.display.batches
  acquires := s.world.surface.gpu.acquires
  inside := s.world.gui.writer.pointerInside

theorem outlook_foldl_obey (s : DeskWindow T P N C) (commands : List CursorCommand)
    (w : Desktop T P N C) :
    outlook (s.inWorld (commands.foldl Desktop.obey w)) = outlook (s.inWorld w) := by
  obtain ⟨visible, icon, log, hobeyed⟩ := obeyed_eq w commands
  rw [hobeyed]
  rfl

variable [DecidableEq N]

theorem keeps_outlook_draw :
    Keeps outlook (ensureDrawn (Desktop.devices k) :
      WindowM (Desktop T P N C) Float Float32 Unit) := by
  have hdraw : Keeps outlook (drawFrame (Desktop.devices k) :
      WindowM (Desktop T P N C) Float Float32 Unit) := fun s => by
    obtain ⟨toolkit, hopen⟩ := openFrame_eq k s.world.display.framebuffer s.world.gui
    have hwritten := outlook_foldl_obey s
      (s.world.gui.endFrame k s.world.display.framebuffer).1.2
      { s.world with gui := (s.world.gui.endFrame k s.world.display.framebuffer).2 }
    refine Eq.trans hwritten ?_
    simp only [Embedded.endFrame, hopen, write_eq]
    rfl
  exact keeps_get.bind fun _ => (keeps_pure _).ite hdraw

omit [DecidableEq N] in
theorem aloof_outlook : Aloof (outlook : DeskWindow T P N C → Outlook) :=
  ⟨fun _ _ _ => rfl, fun _ _ => rfl, fun _ _ => rfl, fun _ _ _ _ _ => rfl, fun _ _ _ => rfl⟩

theorem keeps_outlook_turn :
    Keeps outlook (Operation.turnFrame (Desktop.devices k) :
      WindowM (Desktop T P N C) Float Float32 Unit) := by
  have hprepare : Keeps outlook (prepareForNextFrame (Desktop.devices k) :
      WindowM (Desktop T P N C) Float Float32 Unit) := fun s => by
    obtain ⟨toolkit, hprepare⟩ := prepare_eq k s.world.display.framebuffer s.world.gui
    show outlook (s.inWorld
      { s.world with gui := s.world.gui.prepare k s.world.display.framebuffer }) = _
    rw [hprepare]
    rfl
  intro s
  obtain ⟨s₁, s₂, s', hexec, hturn, h₁, h₂⟩ := aloof_outlook.exec_turnFrame k s
  rw [hexec, ← h₁, ← hprepare.eq hturn]
  exact h₂

theorem present_good {surface : Surface P N C} (h : surface.gpu.acquires = []) :
    ∃ entries surface', surface.present = ((entries, .ok ()), surface') ∧
      surface'.gpu.acquires = [] := by
  simp only [Surface.present, Surface.acquire, h, List.headD_nil, List.tail_nil, if_pos]
  rcases surface.pending with _ | frame <;> exact ⟨_, _, rfl, rfl⟩

/-- The events of a batch that are meant for this window. -/
def Batch.own (b : Batch) : List DisplayEvent := b.arrivals.filterMap Arrival.event?

/-- Whether the pointer is in the window after some events. -/
def insideAfter (inside : Bool) (events : List DisplayEvent) : Bool :=
  (events.foldl CursorWriter.observe ⟨none, inside⟩).pointerInside

theorem outlook_foldl_take (s : DeskWindow T P N C) (events : List DisplayEvent) :
    outlook ((events.map DisplayEvent.report).foldl (Window.take (Desktop.devices k)) s) =
      { outlook s with inside := insideAfter (outlook s).inside events } := by
  induction events generalizing s with
  | nil => rfl
  | cons e events ih =>
    rw [List.map_cons, List.foldl_cons, ih]
    cases e <;> rfl

/-- A show succeeds if the surface gives out its textures and no new size comes. -/
theorem exec_showFrame_calm {s : DeskWindow T P N C} (hs : s.Wired) {batches : List Batch}
    {inside : Bool} (houtlook : outlook s = ⟨true, batches, [], inside⟩)
    (hplain : ∀ e ∈ (batches.headD {}).own, e.report.isResize = false) :
    ∃ s', exec (Operation.perform (Desktop.devices k) .showFrame) s = (.ok .done, s') ∧
      s'.drawn = false ∧
      outlook s' = ⟨true, batches.tail, [], insideAfter inside (batches.headD {}).own⟩ := by
  have hshow : s.config.showWindow = true := congrArg Outlook.shown houtlook
  obtain ⟨s₁, hdraw, -, -⟩ := exec_ensureDrawn k s
  have h₁ : outlook s₁ = _ := ((keeps_outlook_draw k).eq hdraw).trans houtlook
  obtain ⟨entries, surface, hpresent, hgpu⟩ := present_good (congrArg Outlook.acquires h₁)
  let s₂ := s₁.inWorld ({ s₁.world with surface }.write entries)
  have h₂ : outlook s₂ = ⟨true, batches, [], inside⟩ := by
    rw [show outlook s₂ = { outlook s₁ with acquires := surface.gpu.acquires } from rfl, hgpu, h₁]
  have hlead : exec (Operation.lead (Desktop.devices k) .showFrame) s = (.ok (), s₂) := by
    have hattempt : (Desktop.devices k).renderer.present s₁.world =
        (.ok (), { s₁.world with surface }.write entries) := by
      show Desktop.onSurface Surface.present s₁.world = _
      rw [Desktop.onSurface, hpresent]
    rw [Operation.lead, exec_bind_of_ok (exec_requireVisible_ok hshow _),
      exec_bind_of_ok hdraw, exec_attempt_ok hattempt]
  have hbatches : s₂.world.display.batches = batches := congrArg Outlook.batches h₂
  have hpoll : ((Desktop.devices k).platform.poll s₂.world).1 =
      (batches.headD {}).own.map DisplayEvent.report := by
    rw [← hbatches]
    rfl
  have h₃ : outlook (s₂.inWorld ((Desktop.devices k).platform.poll s₂.world).2) =
      ⟨true, batches.tail, [], inside⟩ := by
    show { outlook s₂ with batches := s₂.world.display.batches.tail } = _
    rw [hbatches, h₂]
  have hpump := exec_pump_plain (Desktop.devices k) (hs.lead hlead) (by
    rw [hpoll]
    simpa using hplain)
  rw [hpoll] at hpump
  obtain ⟨s₄, hturn, hcursor⟩ := exec_turnFrame k _
  refine ⟨s₄, ?_, ?_, ?_⟩
  · rw [Operation.perform_pumps _ rfl, exec_bind_of_ok hlead, exec_bind_of_ok hpump, Operation.tail,
      exec_bind_of_ok hturn]
    rfl
  · rw [show s₄.drawn = (cursorOf s₄).drawn from rfl, hcursor, CursorState.turn_drawn]
  · rw [(keeps_outlook_turn k).eq hturn, outlook_foldl_take, h₃]

end Native

end WindowHost
