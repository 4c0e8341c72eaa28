import WindowHost.Proofs.CalmShow

/-!
# The cursor of the host program

While the host program drives the native cursor, the arbiter writes it once, when it takes it over.
The widgets can still write it afterwards. `shown?` tells when a frame of theirs does, and
`intruder?` is what they have written last since the driver changed; the cursor of the host program
is on screen exactly while that is nothing else.
-/

namespace WindowHost.Native

open Cursor (Applied NativeIcon Request Shape WidgetIcon)
open Gui (CursorCommand Toolkit)
open Window

/-! ## Runs -/

variable {T In P N C : Type} (k : Toolkit T In P N C) [DecidableEq N]

/-- A window that was opened on a desktop and then used, with the moves of its native cursor. -/
inductive Tended (toolkit : T) (config : Config) (display : Display) (gpu : Gpu) :
    List CursorMove → DeskWindow T P N C → Prop where
  | opened {s} : (Desktop.launch k toolkit config display gpu).outcome = .ok s →
      Tended toolkit config display gpu [.pumped s.world.gui.writer.pointerInside] s
  | next {moves s} (op : Operation (Desktop T P N C))
      (a : Except WindowError (Answer Float Float32)) {s'} :
      Tended toolkit config display gpu moves s → Orderly op →
      exec (op.perform (Desktop.devices k)) s = (Except.mapError .failed a, s') →
      Tended toolkit config display gpu (moves ++ cursorMoves k op s s' a.isOk) s'

/-- The native cursor of a display before a window is opened on it. -/
def CursorState.initial (display : Display) : CursorState where
  visible := display.cursorVisible
  icon := display.cursorIcon

section Tended

variable {k} {toolkit : T} {config : Config} {display : Display} {gpu : Gpu}
  {moves : List CursorMove} {s : DeskWindow T P N C}

omit [DecidableEq N] in
theorem openWindow_cursor {entry : Entry} {display' : Display}
    (h : display.openWindow config = (.ok entry, display')) :
    display'.cursorVisible = display.cursorVisible ∧ display'.cursorIcon = display.cursorIcon := by
  simp only [Display.openWindow] at h
  split at h
  · cases h
  · split at h
    · cases h
    · split at h
      · cases h
      · cases h
        exact ⟨rfl, rfl⟩

omit [DecidableEq N] in
/-- A surface is opened without a frame that waits, and without textures. -/
theorem openOn_ok {gpu : Gpu} {framebuffer : Extent} {vsync : Bool} {entry : Entry}
    {surface : Surface P N C} (h : Surface.openOn gpu framebuffer vsync = .ok (entry, surface)) :
    surface.pending = none ∧ surface.textures = Gui.Textures.none := by
  unfold Surface.openOn at h
  dsimp only at h
  split at h
  · cases h
  · split at h
    · cases h
    · cases h
      exact ⟨rfl, rfl⟩

/-- What a window is opened over: fresh widgets and a fresh surface, and the native cursor of the
display. -/
structure Fresh (toolkit : T) (display : Display) (world : Desktop T P N C) : Prop where
  cursorVisible : world.display.cursorVisible = display.cursorVisible
  cursorIcon : world.display.cursorIcon = display.cursorIcon
  gui : world.gui = { toolkit }
  pending : world.surface.pending = none
  textures : world.surface.textures = Gui.Textures.none

/-- A launch opens a window over a fresh desktop, and forgets its log. -/
theorem launch_ok (h : (Desktop.launch k toolkit config display gpu).outcome = .ok s) :
    ∃ world s₀, openWith (Desktop.devices k) config world = (.ok (), s₀) ∧
      s = s₀.inWorld { s₀.world with log := [] } ∧ Fresh toolkit display world := by
  simp only [Desktop.launch] at h
  rcases hdisplay : display.openWindow config with ⟨e | entry, display'⟩
  · rw [hdisplay] at h
    cases h
  · rw [hdisplay] at h
    dsimp only at h
    rcases hsurface : Surface.openOn gpu display'.framebuffer config.vsync
      with e | ⟨configured, surface⟩
    · rw [hsurface] at h
      cases h
    · rw [hsurface] at h
      dsimp only at h
      rcases hopen : openWith (Desktop.devices k) config
        { display := display', surface, gui := { toolkit }, log := [entry, configured] }
        with ⟨e | ⟨⟩, s₀⟩
      · rw [hopen] at h
        cases h
      · rw [hopen] at h
        obtain ⟨hvisible, hicon⟩ := openWindow_cursor hdisplay
        obtain ⟨hpending, htextures⟩ := openOn_ok hsurface
        exact ⟨_, s₀, hopen, (Except.ok.inj h).symm, hvisible, hicon, rfl, hpending, htextures⟩

omit [DecidableEq N] in
theorem Fresh.cursorOf_eq {d : Devices (Desktop T P N C) Float DisplayEvent (Gui.Painted P N C)}
    {world : Desktop T P N C} (h : Fresh toolkit display world) :
    cursorOf (fresh d config world) = .initial display := by
  simp only [cursorOf, fresh, CursorState.initial, h.cursorVisible, h.cursorIcon, h.gui]

/-- Opening a window moves only the pointer. -/
theorem cursorOf_openWith {world : Desktop T P N C}
    (h : openWith (Desktop.devices k) config world = (.ok (), s)) :
    cursorOf s = (cursorOf (fresh (Desktop.devices k) config world)).move
      (.pumped s.world.gui.writer.pointerInside) := by
  obtain ⟨-, ds, s₁, hends, hprepare⟩ := openWith_ends h
  obtain ⟨s₂, hprepare', hcursor, -⟩ := exec_prepareForNextFrame k s₁
  obtain rfl : s₂ = s := (Prod.mk.inj (hprepare'.symm.trans hprepare)).2
  have hopened := pumped_of_eq (hends.keeps (deaf_pointer k))
  have hwriter : s₂.world.gui.writer = (cursorOf s₁).writer :=
    congrArg CursorState.writer hcursor
  rw [hcursor, hwriter, hopened]
  rfl

theorem Tended.reached (h : Tended k toolkit config display gpu moves s) :
    ∃ world, Reached (Desktop.devices k) config world s := by
  induction h with
  | opened hlaunch =>
    obtain ⟨world, s₀, hopen, rfl, -⟩ := launch_ok hlaunch
    exact ⟨world, .next (.outside fun w => { w with log := [] }) (.ok .done) (.opened hopen) rfl⟩
  | next op a _ _ hexec ih =>
    obtain ⟨world, hreached⟩ := ih
    exact ⟨world, .next op a hreached hexec⟩

/-- The moves of a run lead to the cursor at its end. -/
theorem Tended.cursorOf_eq (h : Tended k toolkit config display gpu moves s) :
    cursorOf s = moves.foldl CursorState.move (.initial display) := by
  induction h with
  | opened hlaunch =>
    obtain ⟨world, s₀, hopen, rfl, hfresh⟩ := launch_ok hlaunch
    rw [List.foldl_cons, List.foldl_nil, ← hfresh.cursorOf_eq]
    have hopened := cursorOf_openWith hopen
    exact hopened
  | next op a hrun horderly hexec ih =>
    obtain ⟨world, hreached⟩ := hrun.reached
    rw [List.foldl_append, ← ih]
    exact cursorOf_perform k horderly hreached.wired hexec

end Tended

/-! ## What the widgets write -/

/-- What a driver other than the widgets wants on screen: an icon, or no cursor at all. -/
def hostCursor? : Applied → Option (Option NativeIcon)
  | .guiControlled => none
  | .userShape shape => some (some shape.icon)
  | .userHidden => some none

namespace CursorState

/-- The native cursor is that icon, or hidden. -/
def Shows (c : CursorState) : Option NativeIcon → Prop
  | some icon => c.visible = true ∧ c.icon = icon
  | none => c.visible = false

/-- The icon that a frame of the widgets writes. A free frame writes what it asks for when the
cursor was given back, or when that is new and the pointer is inside. A suppressed frame repeats the
last icon, which is written if none is on record, as after a frame with the pointer outside. -/
def shown? (requested : WidgetIcon) (c : CursorState) : Option WidgetIcon :=
  if c.suppressed then
    if c.writer.written = none ∧ c.writer.pointerInside then some c.forwarding.last else none
  else if c.forwarding.reclaimPending ∨
      (c.writer.written ≠ some requested ∧ c.writer.pointerInside) then some requested
  else none

/-- The layer under the widgets has the last icon on record, or none. -/
def Recorded (c : CursorState) : Prop :=
  c.writer.written = none ∨ c.writer.written = some c.forwarding.last

/-- The native cursor becomes the icon of a widget. -/
def take (c : CursorState) (icon : WidgetIcon) : CursorState :=
  { c with visible := icon.native?.isSome, icon := icon.native?.getD c.icon }

theorem foldl_showing (c : CursorState) (icon : WidgetIcon) :
    (CursorCommand.showing icon).foldl obey c = c.take icon := by
  unfold CursorCommand.showing take
  rcases icon.native? with _ | native <;> rfl

theorem shows_take (c : CursorState) (icon : WidgetIcon) (want : Option NativeIcon) :
    (c.take icon).Shows want ↔ icon.native? = want := by
  simp only [take]
  rcases icon.native? with _ | native <;> rcases want with _ | wanted <;> simp [Shows]

/-- The icon that a frame of the widgets hands to the layer under it. -/
def handed (requested : WidgetIcon) (c : CursorState) : WidgetIcon :=
  if c.suppressed then c.forwarding.last else requested

/-- What a frame of the widgets does: it writes what `shown?` tells, and keeps a record of it. -/
theorem endFrame_eq {c : CursorState} (hc : c.Recorded) (requested : WidgetIcon) :
    c.endFrame requested =
      { (c.shown? requested).elim c c.take with
        writer := { c.writer with
          written :=
            if c.writer.written = some (c.handed requested) ∨ c.writer.pointerInside then
              some (c.handed requested)
            else none }
        forwarding := if c.suppressed then c.forwarding else ⟨requested, false⟩
        desired := requested.wish
        drawn := true } := by
  rcases c with ⟨arbiter, visible, icon, ⟨written, inside⟩, ⟨last, pending⟩, desired, suppressed,
    drawn⟩
  simp only [endFrame, write_eq, takeReclaim_forward, forward_fst, List.foldl_append]
  rcases suppressed with _ | _
  · -- a reclaim may write an icon that the layer under the widgets has just written
    have htwice : requested.native?.getD (requested.native?.getD icon) =
        requested.native?.getD icon := by
      rcases requested.native? with _ | native <;> rfl
    by_cases hw : written ≠ some requested ∧ inside = true
    · rcases pending with _ | _ <;> simp [handed, shown?, hw, foldl_showing, take, htwice]
    · rcases pending with _ | _ <;> simp [handed, shown?, hw, foldl_showing, take]
  · -- the repeated icon is new to that layer only if it has none on record
    have hnone : written ≠ some last ↔ written = none := by
      rcases hc with hw | hw <;> simp_all
    by_cases hw : written = none ∧ inside = true
    · simp [handed, shown?, hw, foldl_showing, take]
    · simp [handed, shown?, hnone, hw]

theorem turn_shows (wantsMouse : Bool) (c : CursorState) (want : Option NativeIcon) :
    (c.turn wantsMouse).Shows want ↔
      ((changes c.arbiter.applied (c.verdict wantsMouse)).foldl obey
        { c with
          arbiter := { c.arbiter with applied := c.verdict wantsMouse }
          suppressed := c.arbiter.suppressesGui
          drawn := false }).Shows want := by
  show (handBack _ _ _).Shows want ↔ _
  unfold handBack
  split
  · rcases want with _ | icon <;> rfl
  · rfl

theorem turn_shows_of_eq {wantsMouse : Bool} {c : CursorState}
    (h : c.verdict wantsMouse = c.arbiter.applied) (want : Option NativeIcon) :
    (c.turn wantsMouse).Shows want ↔ c.Shows want := by
  rw [turn_shows, show changes c.arbiter.applied (c.verdict wantsMouse) = [] from if_pos h.symm]
  rcases want with _ | icon <;> rfl

/-- A driver that takes the cursor over gets what it wants on screen. -/
theorem turn_shows_of_ne {wantsMouse : Bool} {c : CursorState}
    (h : c.verdict wantsMouse ≠ c.arbiter.applied) {want : Option NativeIcon}
    (hwant : hostCursor? (c.verdict wantsMouse) = some want) : (c.turn wantsMouse).Shows want := by
  rw [turn_shows]
  unfold changes
  rw [if_neg h.symm]
  rcases hv : c.verdict wantsMouse with _ | shape | _
  · rw [hv] at hwant
    cases hwant
  · rw [hv] at hwant
    cases hwant
    exact ⟨rfl, rfl⟩
  · rw [hv] at hwant
    cases hwant
    rfl

theorem Recorded.move {c : CursorState} (hc : c.Recorded) (m : CursorMove) :
    (c.move m).Recorded := by
  cases m with
  | ended requested =>
    show (c.endFrame requested).Recorded
    rw [endFrame_eq hc]
    have hlast : (if c.suppressed then c.forwarding else ⟨requested, false⟩).last =
        c.handed requested := by
      unfold handed
      split <;> rfl
    by_cases hrecord : c.writer.written = some (c.handed requested) ∨ c.writer.pointerInside
    · exact Or.inr ((if_pos hrecord).trans (congrArg some hlast.symm))
    · exact Or.inl (if_neg hrecord)
  | pumped inside => exact hc
  | turned wantsMouse =>
    show (c.turn wantsMouse).Recorded
    unfold Recorded
    rw [turn_writer, turn_last]
    exact hc
  | prepared => exact hc
  | asked request => exact hc

end CursorState

/-- A native cursor, and the icon that the widgets have written last since its driver changed. -/
structure Watch where
  cursor : CursorState
  intruder : Option WidgetIcon := none

namespace Watch

def move (p : Watch) (m : CursorMove) : Watch where
  cursor := p.cursor.move m
  intruder :=
    match m with
    | .ended requested => (p.cursor.shown? requested).or p.intruder
    | .turned wantsMouse =>
      if p.cursor.verdict wantsMouse = p.cursor.arbiter.applied then p.intruder else none
    | _ => p.intruder

/-- What the host program wants is on screen while the widgets have written nothing else. -/
structure Sound (p : Watch) : Prop where
  recorded : p.cursor.Recorded
  shows : ∀ want, hostCursor? p.cursor.arbiter.applied = some want →
    (p.cursor.Shows want ↔ ∀ icon, p.intruder = some icon → icon.native? = want)

theorem Sound.ended {p : Watch} (hp : p.Sound) (requested : WidgetIcon) :
    (p.move (.ended requested)).Sound := by
  refine ⟨hp.recorded.move _, fun want hwant => ?_⟩
  have hend : (p.move (.ended requested)).cursor = _ :=
    CursorState.endFrame_eq hp.recorded requested
  have happlied : (p.move (.ended requested)).cursor.arbiter = p.cursor.arbiter := by
    rw [hend]
    rcases p.cursor.shown? requested with _ | icon <;> rfl
  have hshows : (p.move (.ended requested)).cursor.Shows want ↔
      ((p.cursor.shown? requested).elim p.cursor p.cursor.take).Shows want := by
    rw [hend]
    rcases want with _ | icon <;> rfl
  rw [happlied] at hwant
  rw [hshows]
  show _ ↔ ∀ icon, (p.cursor.shown? requested).or p.intruder = some icon → _
  rcases p.cursor.shown? requested with _ | icon
  · exact hp.shows want hwant
  · simp [CursorState.shows_take]

theorem Sound.turned {p : Watch} (hp : p.Sound) (wantsMouse : Bool) :
    (p.move (.turned wantsMouse)).Sound := by
  refine ⟨hp.recorded.move _, fun want hwant => ?_⟩
  rw [show (p.move (.turned wantsMouse)).cursor.arbiter.applied = p.cursor.verdict wantsMouse from
    CursorState.turn_applied wantsMouse p.cursor] at hwant
  show (p.cursor.turn wantsMouse).Shows want ↔ ∀ icon, ite _ _ _ = some icon → _
  by_cases hsame : p.cursor.verdict wantsMouse = p.cursor.arbiter.applied
  · rw [if_pos hsame, CursorState.turn_shows_of_eq hsame]
    exact hp.shows want (hsame ▸ hwant)
  · rw [if_neg hsame]
    exact ⟨fun _ _ h => (nomatch h), fun _ => CursorState.turn_shows_of_ne hsame hwant⟩

theorem Sound.move {p : Watch} (hp : p.Sound) (m : CursorMove) : (p.move m).Sound := by
  cases m with
  | ended requested => exact hp.ended requested
  | turned wantsMouse => exact hp.turned wantsMouse
  | pumped | prepared | asked => exact ⟨hp.recorded.move _, hp.shows⟩

theorem Sound.foldl {p : Watch} (hp : p.Sound) (moves : List CursorMove) :
    (moves.foldl Watch.move p).Sound := by
  induction moves generalizing p with
  | nil => exact hp
  | cons m moves ih => exact ih (hp.move m)

theorem cursor_foldl (p : Watch) (moves : List CursorMove) :
    (moves.foldl move p).cursor = moves.foldl CursorState.move p.cursor := by
  induction moves generalizing p with
  | nil => rfl
  | cons m moves ih => exact ih (p.move m)

end Watch

/-- The icon that the widgets have written last since the driver of the cursor last changed. -/
def intruder? (display : Display) (moves : List CursorMove) : Option WidgetIcon :=
  (moves.foldl Watch.move ⟨.initial display, none⟩).intruder

/-! ## A cursor that is lost -/

section Shows

variable {k} {toolkit : T} {config : Config} {display : Display} {gpu : Gpu}
  {moves : List CursorMove} {s : DeskWindow T P N C}

/-- A run of a window that is shown goes on with any request for a cursor. -/
theorem Tended.ask (h : Tended k toolkit config display gpu moves s)
    (hshow : s.config.showWindow = true) (request : Request) :
    Tended k toolkit config display gpu (moves ++ [.asked request])
      { s with cursor := s.cursor.setRequest request } := by
  refine h.next (.setCursorRequest request) (.ok .done) trivial ?_
  rw [Operation.perform, setCursorRequest, bind_assoc,
    exec_bind_of_ok (exec_requireVisible_ok hshow _)]
  rfl

/-- A run goes on while the display gets events. -/
theorem Tended.enqueue (h : Tended k toolkit config display gpu moves s) (more : List Batch) :
    Tended k toolkit config display gpu moves (s.inWorld (s.world.enqueue more)) := by
  rw [← List.append_nil moves]
  exact h.next (.outside fun w => w.enqueue more) (.ok .done) (aside_enqueue more) rfl

omit [DecidableEq N] in
theorem outlook_enqueue (more : List Batch) :
    outlook (s.inWorld (s.world.enqueue more)) =
      { outlook s with batches := (outlook s).batches ++ more } := rfl

/-- A run goes on with a show when nothing lies ahead that could make it fail. -/
theorem Tended.show_calm {batches : List Batch} {inside : Bool}
    (h : Tended k toolkit config display gpu moves s) (hdrawn : s.drawn = false)
    (houtlook : outlook s = ⟨true, batches, [], inside⟩)
    (hplain : ∀ e ∈ (batches.headD {}).own, e.report.isResize = false) :
    ∃ s', exec (Operation.perform (Desktop.devices k) .showFrame) s = (.ok .done, s') ∧
      Tended k toolkit config display gpu
        (moves ++ [.ended (requested k s.world),
          .pumped (insideAfter inside (batches.headD {}).own),
          .turned (k.wantsMouse s'.world.gui.toolkit)]) s' ∧
      s'.drawn = false ∧
      outlook s' = ⟨true, batches.tail, [], insideAfter inside (batches.headD {}).own⟩ := by
  obtain ⟨world, hreached⟩ := h.reached
  obtain ⟨s', hexec, hdrawn', houtlook'⟩ := exec_showFrame_calm k hreached.wired houtlook hplain
  have hnext := Tended.next .showFrame (.ok .done) h trivial hexec
  have hshow : s.config.showWindow = true := congrArg Outlook.shown houtlook
  have hinside : s'.world.gui.writer.pointerInside = _ := congrArg Outlook.inside houtlook'
  simp only [cursorMoves, showMoves, ensuredMoves, hshow, hdrawn, hinside] at hnext
  exact ⟨s', hexec, hnext, hdrawn', houtlook'⟩

end Shows

/-- Widgets that always ask for the usual cursor, and do nothing else. -/
def plainToolkit : Toolkit Unit Unit Unit Unit Unit where
  onEvent _ t := t
  takeInput _ t := ((), t)
  beginFrame _ t := t
  endFrame t := ((.default, ⟨(), [], [], 1⟩), t)
  wantsMouse _ := false
  wantsKeyboard _ := false
  declare _ cache t := ([], cache, t)

/-- The pointer comes into the window after the host program has asked for a hand. -/
def lostMoves : List CursorMove :=
  [.pumped false, .asked ⟨.shape .hand, false⟩,
    .ended .default, .pumped false, .turned false,
    .ended .default, .pumped true, .turned false,
    .ended .default, .pumped true, .turned false]

def entering : Batch := ⟨[.own (.cursorMoved 0 0)], false⟩

theorem tended_plain : ∃ s : DeskWindow Unit Unit Unit Unit,
    Tended plainToolkit () { size := ⟨1, 1⟩ } {} {} [.pumped false] s ∧ s.drawn = false ∧
      outlook s = ⟨true, [], [], false⟩ := by
  obtain ⟨s, hlaunch, hdrawn, houtlook⟩ : ∃ s, (Desktop.launch plainToolkit () { size := ⟨1, 1⟩ }
      {} {}).outcome = .ok s ∧ s.drawn = false ∧ outlook s = ⟨true, [], [], false⟩ :=
    ⟨_, rfl, rfl, rfl⟩
  have hopened := Tended.opened hlaunch
  have hinside : s.world.gui.writer.pointerInside = false := congrArg Outlook.inside houtlook
  rw [hinside] at hopened
  exact ⟨s, hopened, hdrawn, houtlook⟩

/-- A run in which the pointer comes into the window after the host program has asked for a hand. -/
theorem tended_lost : ∃ s s' : DeskWindow Unit Unit Unit Unit,
    Tended plainToolkit () { size := ⟨1, 1⟩ } {} {} lostMoves s' ∧
      exec (Operation.perform (Desktop.devices plainToolkit) .showFrame) s = (.ok .done, s') := by
  obtain ⟨s, hopened, hdrawn, houtlook⟩ := tended_plain
  have hasked := hopened.ask (congrArg Outlook.shown houtlook) ⟨.shape .hand, false⟩
  obtain ⟨s₁, -, h₁, hdrawn₁, houtlook₁⟩ :=
    hasked.show_calm hdrawn houtlook fun _ he => absurd he List.not_mem_nil
  have hentered : outlook (s₁.inWorld (s₁.world.enqueue [entering])) =
      ⟨true, [entering], [], false⟩ := by
    rw [outlook_enqueue, houtlook₁]
    rfl
  obtain ⟨s₂, -, h₂, hdrawn₂, houtlook₂⟩ :=
    (h₁.enqueue [entering]).show_calm hdrawn₁ hentered fun e he => by
      obtain rfl := List.mem_singleton.1 he
      rfl
  obtain ⟨s₃, hexec₃, h₃, -⟩ :=
    h₂.show_calm hdrawn₂ houtlook₂ fun _ he => absurd he List.not_mem_nil
  exact ⟨s₂, s₃, h₃, hexec₃⟩

/-! ## When the cursor is the host program's -/

/-- After every step of every run, the cursor of the host program is on screen exactly when the
widgets have written nothing since it took the cursor over, or what they wrote last looks the
same. -/
theorem host_cursor_shown_iff {toolkit : T} {config : Config} {display : Display} {gpu : Gpu}
    {moves : List CursorMove} {s : DeskWindow T P N C}
    (h : Tended k toolkit config display gpu moves s) :
    (∀ shape, s.appliedCursor = .userShape shape →
      ((s.world.display.cursorVisible = true ∧ s.world.display.cursorIcon = shape.icon) ↔
        ∀ icon, intruder? display moves = some icon → icon.native? = some shape.icon)) ∧
    (s.appliedCursor = .userHidden →
      (s.world.display.cursorVisible = false ↔
        ∀ icon, intruder? display moves = some icon → icon.native? = none)) := by
  have hstart : Watch.Sound ⟨.initial display, none⟩ := ⟨Or.inl rfl, fun _ h => nomatch h⟩
  have hshows := (hstart.foldl moves).shows
  rw [Watch.cursor_foldl, ← h.cursorOf_eq] at hshows
  refine ⟨fun shape happlied => hshows (some shape.icon) ?_, fun happlied => hshows none ?_⟩
  · exact congrArg hostCursor? happlied
  · exact congrArg hostCursor? happlied

theorem applied_lost {s : DeskWindow Unit Unit Unit Unit}
    (h : Tended plainToolkit () { size := ⟨1, 1⟩ } {} {} lostMoves s) :
    s.appliedCursor = .userShape .hand ∧ s.world.display.cursorVisible = true ∧
      s.world.display.cursorIcon = .default := by
  have hcursor := h.cursorOf_eq
  exact ⟨congrArg (·.arbiter.applied) hcursor, congrArg CursorState.visible hcursor,
    congrArg CursorState.icon hcursor⟩

/-- After a show that succeeds, the host program drives the cursor with a hand, and the usual cursor
is on screen. -/
theorem host_cursor_lost : ∃ s s' : DeskWindow Unit Unit Unit Unit,
    Tended plainToolkit () { size := ⟨1, 1⟩ } {} {} lostMoves s' ∧
      exec (Operation.perform (Desktop.devices plainToolkit) .showFrame) s = (.ok .done, s') ∧
      s'.appliedCursor = .userShape .hand ∧ s'.world.display.cursorVisible = true ∧
      s'.world.display.cursorIcon ≠ Shape.hand.icon := by
  obtain ⟨s, s', h, hexec⟩ := tended_lost
  obtain ⟨happlied, hvisible, hicon⟩ := applied_lost h
  exact ⟨s, s', h, hexec, happlied, hvisible, by rw [hicon]; decide⟩

theorem host_cursor_shown_iff_lost : ∃ s : DeskWindow Unit Unit Unit Unit,
    Tended plainToolkit () { size := ⟨1, 1⟩ } {} {} lostMoves s ∧
      s.appliedCursor = .userShape .hand ∧
      ¬ (s.world.display.cursorVisible = true ∧ s.world.display.cursorIcon = Shape.hand.icon) := by
  obtain ⟨-, s, h, -⟩ := tended_lost
  obtain ⟨happlied, -⟩ := applied_lost h
  refine ⟨s, h, happlied, fun hshown => ?_⟩
  have hsame := ((host_cursor_shown_iff plainToolkit h).1 .hand happlied).1 hshown .default rfl
  exact absurd hsame (by decide)

end WindowHost.Native
