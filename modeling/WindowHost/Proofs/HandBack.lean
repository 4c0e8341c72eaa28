import WindowHost.Proofs.HostCursor

/-!
# The cursor back with the widgets

A show that gives the native cursor back to the widgets leaves on screen what the host program had
there. The widgets write theirs in the first frame in which they are free, which is at the latest
the second one after that show. `HandedBack` are the windows in which further shows have left the
cursor with the widgets, and `Returning` is how far these are with writing it.
-/

namespace WindowHost.Native

open Cursor (NativeIcon WidgetIcon)
open Gui (Toolkit)
open Window

/-! ## Frames that ended -/

/-- A frame of the widgets that was ended to be drawn: the icon that it asked for, and whether the
pointer was in the window. -/
structure EndedFrame where
  asked : WidgetIcon
  inside : Bool
  deriving DecidableEq, Repr

/-- Whether the pointer is in the window, and the frame that ended last. -/
structure Glimpse where
  inside : Bool := false
  last : Option EndedFrame := none
  deriving DecidableEq, Repr

def Glimpse.move (g : Glimpse) : CursorMove → Glimpse
  | .ended asked => { g with last := some ⟨asked, g.inside⟩ }
  | .pumped inside => { g with inside }
  | _ => g

/-- The frame that ended last in a run with those moves. -/
def lastEnded? (moves : List CursorMove) : Option EndedFrame :=
  (moves.foldl Glimpse.move {}).last

/-- The next frame begins with a show. -/
def CursorMove.isTurn : CursorMove → Bool
  | .turned _ => true
  | _ => false

namespace CursorState

variable {c : CursorState}

/-- The layer under the widgets is right about what is on screen. -/
def Faithful (c : CursorState) : Prop :=
  ∀ icon, c.writer.written = some icon → c.Shows icon.native?

/-- A frame writes the icon that it hands over, if that is due or new with the pointer inside. -/
theorem shown?_eq (hc : c.Recorded) (asked : WidgetIcon) :
    c.shown? asked =
      if (c.suppressed = false ∧ c.forwarding.reclaimPending = true) ∨
          (c.writer.written ≠ some (c.handed asked) ∧ c.writer.pointerInside = true) then
        some (c.handed asked)
      else none := by
  unfold shown? handed
  rcases hsuppressed : c.suppressed with _ | _
  · simp
  · have hnone : c.writer.written = none ↔ c.writer.written ≠ some c.forwarding.last := by
      rcases hc with hw | hw <;> simp [hw]
    simp [hnone]

/-- A frame leaves alone who drives the cursor and where the pointer is. -/
theorem endFrame_kept (c : CursorState) (asked : WidgetIcon) :
    (c.endFrame asked).arbiter = c.arbiter ∧ (c.endFrame asked).suppressed = c.suppressed ∧
      (c.endFrame asked).writer.pointerInside = c.writer.pointerInside ∧
      (c.endFrame asked).drawn = true := by
  obtain ⟨visible, icon, hfold⟩ := foldl_obey_eq { c with
    writer := (c.writer.write (c.forwarding.forward asked c.suppressed).1).2
    forwarding := ((c.forwarding.forward asked c.suppressed).2.takeReclaim c.suppressed).2
    desired := asked.wish
    drawn := true } _
  have hend : c.endFrame asked = _ := hfold
  rw [hend, write_eq]
  exact ⟨rfl, rfl, rfl, rfl⟩

theorem Recorded.foldl (hc : c.Recorded) (moves : List CursorMove) :
    (moves.foldl CursorState.move c).Recorded := by
  induction moves generalizing c with
  | nil => exact hc
  | cons m moves ih => exact ih (hc.move m)

/-- Only a turn changes who drives the cursor. -/
theorem applied_foldl {moves : List CursorMove} (hmoves : ∀ m ∈ moves, m.isTurn = false) :
    (moves.foldl move c).arbiter.applied = c.arbiter.applied := by
  induction moves generalizing c with
  | nil => rfl
  | cons m moves ih =>
    have hm : m.isTurn = false := hmoves m List.mem_cons_self
    refine (ih fun m' hm' => hmoves m' (List.mem_cons_of_mem _ hm')).trans ?_
    cases m with
    | ended asked => exact congrArg _ (endFrame_kept c asked).1
    | turned => cases hm
    | pumped | prepared | asked => rfl

/-- A glimpse knows where the pointer is. -/
theorem inside_foldl {g : Glimpse} (h : g.inside = c.writer.pointerInside)
    (moves : List CursorMove) :
    (moves.foldl Glimpse.move g).inside = (moves.foldl move c).writer.pointerInside := by
  induction moves generalizing g c with
  | nil => exact h
  | cons m moves ih =>
    refine ih ?_
    cases m with
    | ended asked => exact h.trans (endFrame_kept c asked).2.2.1.symm
    | turned wantsMouse => exact h.trans (congrArg _ (turn_writer wantsMouse c)).symm
    | pumped inside => rfl
    | prepared | asked => exact h

theorem endFrame_shows (hc : c.Recorded) (asked : WidgetIcon) (want : Option NativeIcon) :
    (c.endFrame asked).Shows want ↔ ((c.shown? asked).elim c c.take).Shows want := by
  rw [endFrame_eq hc]
  rcases want with _ | icon <;> rfl

/-- A frame keeps the layer under the widgets right, and the first free frame after a hand-back sets
it right. -/
theorem faithful_endFrame (hc : c.Recorded) (asked : WidgetIcon)
    (h : c.Faithful ∨ (c.suppressed = false ∧ c.forwarding.reclaimPending = true)) :
    (c.endFrame asked).Faithful := by
  intro icon hicon
  have hrecord : (if c.writer.written = some (c.handed asked) ∨ c.writer.pointerInside = true then
      some (c.handed asked) else none) = some icon := by
    rw [endFrame_eq hc] at hicon
    exact hicon
  by_cases hkept : c.writer.written = some (c.handed asked) ∨ c.writer.pointerInside = true
  · rw [if_pos hkept] at hrecord
    obtain rfl := Option.some.inj hrecord
    rw [endFrame_shows hc, shown?_eq hc]
    split
    · exact (c.shows_take _ _).2 rfl
    · -- nothing was written, so the icon was on record before
      rename_i hquiet
      obtain ⟨hdue, hnew⟩ := not_or.1 hquiet
      have hold : c.writer.written = some (c.handed asked) :=
        Decidable.byContradiction fun hne => hnew ⟨hne, hkept.resolve_left hne⟩
      exact (h.resolve_right hdue) _ hold
  · rw [if_neg hkept] at hrecord
    cases hrecord

/-- A free frame that ends with the pointer in the window has its icon on screen. -/
theorem shows_endFrame (hc : c.Recorded) (hfree : c.suppressed = false)
    (h : c.Faithful ∨ c.forwarding.reclaimPending = true) (hinside : c.writer.pointerInside = true)
    (asked : WidgetIcon) : (c.endFrame asked).Shows asked.native? := by
  refine faithful_endFrame hc asked (h.imp_right fun hdue => ⟨hfree, hdue⟩) asked ?_
  rw [endFrame_eq hc]
  simp [handed, hfree, hinside]

end CursorState

/-! ## Moves after a hand-back -/

/-- How far the widgets are with the cursor that they got back, when that many further shows have
left it with them. -/
structure Returning (shows : Nat) (c : CursorState) (g : Glimpse) : Prop where
  recorded : c.Recorded
  applied : c.arbiter.applied = .guiControlled
  inside : g.inside = c.writer.pointerInside
  /-- The cursor is right unless it is still due. -/
  due : c.Faithful ∨ c.forwarding.reclaimPending = true
  free : 1 ≤ shows → c.suppressed = false
  /-- A free frame has ended, and it was not in vain. -/
  settled : 2 ≤ shows ∨ (1 ≤ shows ∧ c.drawn = true) →
    ∃ frame, g.last = some frame ∧ (frame.inside = true → c.Shows frame.asked.native?)

namespace Returning

variable {shows : Nat} {c : CursorState} {g : Glimpse}

theorem ended (h : Returning shows c g) (asked : WidgetIcon) :
    Returning shows (c.move (.ended asked)) (g.move (.ended asked)) := by
  have hend : c.move (.ended asked) = _ := CursorState.endFrame_eq h.recorded asked
  obtain ⟨harbiter, hsuppressed, hinside, -⟩ := CursorState.endFrame_kept c asked
  refine ⟨h.recorded.move _, harbiter ▸ h.applied, h.inside.trans hinside.symm, ?_,
    fun hshows => hsuppressed.trans (h.free hshows), fun hshows => ?_⟩
  · -- a suppressed frame leaves the cursor due
    by_cases hdue : c.suppressed = true ∧ c.forwarding.reclaimPending = true
    · refine .inr ?_
      rw [hend, if_pos hdue.1]
      exact hdue.2
    · refine .inl (CursorState.faithful_endFrame h.recorded asked ?_)
      refine h.due.imp_right fun hpending => ?_
      exact ⟨by simpa [hpending] using hdue, hpending⟩
  · have hfree : c.suppressed = false := h.free (by omega)
    refine ⟨⟨asked, g.inside⟩, rfl, fun hin => ?_⟩
    exact CursorState.shows_endFrame h.recorded hfree h.due (h.inside.symm.trans hin) asked

theorem move (h : Returning shows c g) {m : CursorMove} (hm : m.isTurn = false) :
    Returning shows (c.move m) (g.move m) := by
  cases m with
  | ended asked => exact h.ended asked
  | pumped inside => exact ⟨h.recorded.move _, h.applied, rfl, h.due, h.free, h.settled⟩
  | turned => cases hm
  | prepared =>
    refine ⟨h.recorded.move _, h.applied, h.inside, h.due, h.free, fun hshows => ?_⟩
    exact h.settled (hshows.imp_right fun hdrawn => absurd hdrawn.2 nofun)
  | asked request => exact ⟨h.recorded.move _, h.applied, h.inside, h.due, h.free, h.settled⟩

theorem foldl (h : Returning shows c g) {moves : List CursorMove}
    (hmoves : ∀ m ∈ moves, m.isTurn = false) :
    Returning shows (moves.foldl CursorState.move c) (moves.foldl Glimpse.move g) := by
  induction moves generalizing c g with
  | nil => exact h
  | cons m moves ih =>
    exact ih (h.move (hmoves m (.head _))) fun m' hm' => hmoves m' (.tail _ hm')

/-- A show that gives the cursor back leaves it due. -/
theorem start (hc : c.Recorded) (hinside : g.inside = c.writer.pointerInside) {wantsMouse : Bool}
    (happlied : c.arbiter.applied ≠ .guiControlled)
    (hverdict : c.verdict wantsMouse = .guiControlled) : Returning 0 (c.turn wantsMouse) g := by
  obtain ⟨visible, icon, hturn⟩ := CursorState.turn_eq wantsMouse c
  refine ⟨hc.move (.turned wantsMouse), (CursorState.turn_applied wantsMouse c).trans hverdict,
    hinside.trans (congrArg _ (CursorState.turn_writer wantsMouse c)).symm, .inr ?_,
    fun hshows => absurd hshows (by omega), fun hshows => absurd hshows (by omega)⟩
  rw [hturn]
  simp [hverdict, happlied, Gui.Forwarding.reclaim]

/-- The widgets are free after a show that leaves the cursor with them. -/
theorem suppressesGui_eq (happlied : c.arbiter.applied = .guiControlled) {wantsMouse : Bool}
    (hverdict : c.verdict wantsMouse = .guiControlled) : c.arbiter.suppressesGui = false := by
  have hchoice : c.arbiter.request.choice ≠ .hidden := fun hhidden => by
    simp [CursorState.verdict, Cursor.verdict, hhidden] at hverdict
  simp [Cursor.Arbiter.suppressesGui, happlied, hchoice]

/-- A show ends a frame and frees the next one. -/
theorem turn (h : Returning shows c g) (hdrawn : 1 ≤ shows → c.drawn = true) {wantsMouse : Bool}
    (hverdict : c.verdict wantsMouse = .guiControlled) :
    Returning (shows + 1) (c.turn wantsMouse) g := by
  have hsame : c.verdict wantsMouse = c.arbiter.applied := hverdict.trans h.applied.symm
  have hshows (want : Option NativeIcon) : (c.turn wantsMouse).Shows want ↔ c.Shows want :=
    CursorState.turn_shows_of_eq hsame want
  have hwriter : (c.turn wantsMouse).writer = c.writer := CursorState.turn_writer wantsMouse c
  obtain ⟨visible, icon, hturn⟩ := CursorState.turn_eq wantsMouse c
  have hforwarding : (c.turn wantsMouse).forwarding = c.forwarding := by
    rw [hturn]
    exact if_neg fun hback => hback.2 h.applied
  refine ⟨h.recorded.move (.turned wantsMouse),
    (CursorState.turn_applied wantsMouse c).trans hverdict,
    h.inside.trans (congrArg _ hwriter).symm, ?_, fun _ => ?_, fun hlate => ?_⟩
  · rw [hforwarding]
    refine h.due.imp_left fun hfaithful icon hicon => (hshows _).2 (hfaithful icon ?_)
    rwa [hwriter] at hicon
  · rw [hturn]
    exact suppressesGui_eq h.applied hverdict
  · have hfirst : 1 ≤ shows := by
      rcases hlate with hlate | ⟨-, hundrawn⟩
      · omega
      · rw [CursorState.turn_drawn] at hundrawn
        cases hundrawn
    obtain ⟨frame, hlast, hright⟩ := h.settled (.inr ⟨hfirst, hdrawn hfirst⟩)
    exact ⟨frame, hlast, fun hinside => (hshows _).2 (hright hinside)⟩

end Returning

/-! ## Windows after a hand-back -/

section Windows

variable {T In P N C : Type} (k : Toolkit T In P N C) [DecidableEq N]

/-- A window in which a show gave the native cursor back to the widgets and that many further shows
have left it with them, with the moves of the cursor since the window was opened. A show that fails
may come in between, as any other operation may. -/
inductive HandedBack (toolkit : T) (config : Config) (display : Display) (gpu : Gpu) :
    Nat → List CursorMove → DeskWindow T P N C → Prop where
  | given {moves s s'} : Tended k toolkit config display gpu moves s →
      s.appliedCursor ≠ .guiControlled →
      exec (Operation.perform (Desktop.devices k) .showFrame) s = (.ok .done, s') →
      s'.appliedCursor = .guiControlled →
      HandedBack toolkit config display gpu 0 (moves ++ cursorMoves k .showFrame s s' true) s'
  | shown {shows moves s s'} : HandedBack toolkit config display gpu shows moves s →
      exec (Operation.perform (Desktop.devices k) .showFrame) s = (.ok .done, s') →
      s'.appliedCursor = .guiControlled →
      HandedBack toolkit config display gpu (shows + 1)
        (moves ++ cursorMoves k .showFrame s s' true) s'
  | between {shows moves s} (op : Operation (Desktop T P N C))
      (a : Except WindowError (Answer Float Float32)) {s'} :
      HandedBack toolkit config display gpu shows moves s → Orderly op →
      (op = .showFrame → a.isOk = false) →
      exec (op.perform (Desktop.devices k)) s = (Except.mapError .failed a, s') →
      HandedBack toolkit config display gpu shows (moves ++ cursorMoves k op s s' a.isOk) s'

variable {k} {toolkit : T} {config : Config} {display : Display} {gpu : Gpu} {shows : Nat}
  {moves : List CursorMove} {s s' : DeskWindow T P N C}

theorem HandedBack.tended (h : HandedBack k toolkit config display gpu shows moves s) :
    Tended k toolkit config display gpu moves s := by
  induction h with
  | given hrun _ hexec _ => exact hrun.next .showFrame (.ok .done) trivial hexec
  | shown _ hexec _ ih => exact ih.next .showFrame (.ok .done) trivial hexec
  | between op a _ horderly _ hexec ih => exact ih.next op a horderly hexec

omit [DecidableEq N] in
/-- Only a show that succeeds turns a frame. -/
theorem isTurn_cursorMoves {op : Operation (Desktop T P N C)} {ok : Bool}
    (hop : op = .showFrame → ok = false) : ∀ m ∈ cursorMoves k op s s' ok, m.isTurn = false := by
  have hensured : ∀ m ∈ ensuredMoves k s, m.isTurn = false := by
    intro m hm
    unfold ensuredMoves at hm
    split at hm
    · cases hm
    · obtain rfl := List.mem_singleton.1 hm
      rfl
  have hread : ∀ m ∈ readMoves k s ok, m.isTurn = false := by
    intro m hm
    rcases List.mem_append.1 hm with hm | hm
    · exact hensured m hm
    · split at hm
      · obtain rfl := List.mem_singleton.1 hm
        rfl
      · cases hm
  intro m hm
  cases op with
  | showFrame =>
    obtain rfl := hop rfl
    simp only [cursorMoves, showMoves] at hm
    split at hm
    · rcases List.mem_append.1 hm with hm | hm
      · exact hensured m hm
      · obtain rfl := List.mem_singleton.1 hm
        rfl
    · cases hm
  | drawFrame =>
    obtain rfl := List.mem_singleton.1 hm
    rfl
  | dumpImage | writeImage | copyDepth => exact hread m hm
  | pollEvents | pollOneEvent | setCursorRequest =>
    simp only [cursorMoves] at hm
    split at hm
    · obtain rfl := List.mem_singleton.1 hm
      rfl
    · cases hm
  | setCursor index force =>
    simp only [cursorMoves] at hm
    split at hm
    · split at hm
      · obtain rfl := List.mem_singleton.1 hm
        rfl
      · cases hm
    · cases hm
  | _ => cases hm

/-- A show that succeeds turns a frame that was drawn. -/
theorem exists_turn (hs : s.Wired)
    (h : exec (Operation.perform (Desktop.devices k) .showFrame) s = (.ok .done, s')) :
    ∃ before wantsMouse, cursorMoves k .showFrame s s' true = before ++ [.turned wantsMouse] ∧
      (∀ m ∈ before, m.isTurn = false) ∧
      (before.foldl CursorState.move (cursorOf s)).drawn = true ∧
      cursorOf s' = (before.foldl CursorState.move (cursorOf s)).turn wantsMouse := by
  have hshow : s.config.showWindow = true := Decidable.byContradiction fun hhidden => by
    rw [Operation.perform_pumps _ rfl, Operation.lead, exec_bind_of_error
      (exec_bind_of_error (exec_requireVisible_error hhidden _) _)] at h
    cases h
  let before := ensuredMoves k s ++ [CursorMove.pumped s'.world.gui.writer.pointerInside]
  have hmoves : cursorMoves k .showFrame s s' true =
      before ++ [.turned (k.wantsMouse s'.world.gui.toolkit)] := by
    simp [before, cursorMoves, showMoves, hshow]
  have horderly : Orderly (.showFrame : Operation (Desktop T P N C)) := trivial
  have hcursor : cursorOf s' =
      (cursorMoves k .showFrame s s' true).foldl CursorState.move (cursorOf s) :=
    cursorOf_perform k (a := .ok .done) horderly hs h
  have hnone : ∀ m ∈ cursorMoves k .showFrame s s' false, m.isTurn = false :=
    isTurn_cursorMoves fun _ => rfl
  refine ⟨before, _, hmoves, fun m hm => ?_, ?_, ?_⟩
  · refine hnone m ?_
    simpa [before, cursorMoves, showMoves, hshow] using hm
  · rw [List.foldl_append]
    show ((ensuredMoves k s).foldl CursorState.move (cursorOf s)).drawn = true
    unfold ensuredMoves
    split
    · assumption
    · exact (CursorState.endFrame_kept _ _).2.2.2
  · rw [hcursor, hmoves, List.foldl_append]
    rfl

theorem HandedBack.returning (h : HandedBack k toolkit config display gpu shows moves s) :
    Returning shows (cursorOf s) (moves.foldl Glimpse.move {}) := by
  induction h with
  | @given moves s s' hrun happlied hexec hback =>
    obtain ⟨world, hreached⟩ := hrun.reached
    obtain ⟨before, wantsMouse, hmoves, hbefore, -, hturn⟩ := exists_turn hreached.wired hexec
    have hcursor : before.foldl CursorState.move (cursorOf s) =
        (moves ++ before).foldl CursorState.move (.initial display) := by
      rw [List.foldl_append, hrun.cursorOf_eq]
    rw [hmoves, ← List.append_assoc, List.foldl_append, hturn]
    refine .start ?_ ?_ ?_ ?_
    · exact hcursor ▸ CursorState.Recorded.foldl (.inl rfl) _
    · have hinside := CursorState.inside_foldl (c := .initial display) (g := {}) rfl
        (moves ++ before)
      exact hcursor ▸ hinside
    · rw [CursorState.applied_foldl hbefore]
      exact happlied
    · rw [← CursorState.turn_applied, ← hturn]
      exact hback
  | @shown shows moves s s' hrun hexec hback ih =>
    obtain ⟨world, hreached⟩ := hrun.tended.reached
    obtain ⟨before, wantsMouse, hmoves, hbefore, hdrawn, hturn⟩ :=
      exists_turn hreached.wired hexec
    rw [hmoves, ← List.append_assoc, List.foldl_append, List.foldl_append, hturn]
    refine (ih.foldl hbefore).turn (fun _ => hdrawn) ?_
    rw [← CursorState.turn_applied, ← hturn]
    exact hback
  | between op a hrun horderly hop hexec ih =>
    obtain ⟨world, hreached⟩ := hrun.tended.reached
    rw [List.foldl_append, cursorOf_perform k horderly hreached.wired hexec]
    exact ih.foldl (isTurn_cursorMoves hop)

omit [DecidableEq N] in
theorem cursorMoves_show (hshow : s.config.showWindow = true) (hdrawn : s.drawn = false) :
    cursorMoves k .showFrame s s' true =
      [.ended (requested k s.world), .pumped s'.world.gui.writer.pointerInside,
        .turned (k.wantsMouse s'.world.gui.toolkit)] := by
  simp [cursorMoves, showMoves, ensuredMoves, hshow, hdrawn]

end Windows

/-- The host program asks for a hand, shows a frame, and leaves the cursor to the widgets before it
shows three more. -/
def handedMoves : List CursorMove :=
  [.pumped false, .asked ⟨.shape .hand, false⟩,
    .ended .default, .pumped true, .turned false, .asked {},
    .ended .default, .pumped true, .turned false,
    .ended .default, .pumped true, .turned false,
    .ended .default, .pumped true, .turned false]

theorem applied_handed (n : Nat) {s : DeskWindow Unit Unit Unit Unit}
    (h : Tended plainToolkit () { size := ⟨1, 1⟩ } {} {} (handedMoves.take n) s) :
    s.appliedCursor =
      ((handedMoves.take n).foldl CursorState.move (.initial {})).arbiter.applied :=
  congrArg (·.arbiter.applied) h.cursorOf_eq

theorem exists_handedBack : ∃ s : DeskWindow Unit Unit Unit Unit,
    HandedBack plainToolkit () { size := ⟨1, 1⟩ } {} {} 2 handedMoves s := by
  obtain ⟨s, hopened, hdrawn, houtlook⟩ := tended_plain
  have hasked := hopened.ask (congrArg Outlook.shown houtlook) ⟨.shape .hand, false⟩
  have hentered : outlook (s.inWorld (s.world.enqueue [entering])) =
      ⟨true, [entering], [], false⟩ := by
    rw [outlook_enqueue, houtlook]
    rfl
  obtain ⟨s₁, -, h₁, hdrawn₁, houtlook₁⟩ :=
    (hasked.enqueue [entering]).show_calm hdrawn hentered fun e he => by
      obtain rfl := List.mem_singleton.1 he
      rfl
  have hshown₁ : s₁.config.showWindow = true := congrArg Outlook.shown houtlook₁
  have hleft := h₁.ask hshown₁ {}
  obtain ⟨s₂, hexec₂, h₂, hdrawn₂, houtlook₂⟩ :=
    hleft.show_calm hdrawn₁ houtlook₁ fun _ he => absurd he List.not_mem_nil
  obtain ⟨s₃, hexec₃, h₃, hdrawn₃, houtlook₃⟩ :=
    h₂.show_calm hdrawn₂ houtlook₂ fun _ he => absurd he List.not_mem_nil
  obtain ⟨s₄, hexec₄, h₄, -, houtlook₄⟩ :=
    h₃.show_calm hdrawn₃ houtlook₃ fun _ he => absurd he List.not_mem_nil
  have hgiven := HandedBack.given hleft (applied_handed 5 h₁ ▸ by decide) hexec₂
    (applied_handed 9 h₂)
  have hshown := (hgiven.shown hexec₃ (applied_handed 12 h₃)).shown hexec₄ (applied_handed 15 h₄)
  rw [cursorMoves_show (s := { s₁ with cursor := s₁.cursor.setRequest {} }) hshown₁ hdrawn₁,
    cursorMoves_show (congrArg Outlook.shown houtlook₂) hdrawn₂,
    cursorMoves_show (congrArg Outlook.shown houtlook₃) hdrawn₃,
    show s₂.world.gui.writer.pointerInside = true from congrArg Outlook.inside houtlook₂,
    show s₃.world.gui.writer.pointerInside = true from congrArg Outlook.inside houtlook₃,
    show s₄.world.gui.writer.pointerInside = true from congrArg Outlook.inside houtlook₄] at hshown
  exact ⟨s₄, hshown⟩

/-! ## The hand-back completes -/

/-- From the second show on that leaves the native cursor with the widgets, the cursor is the one
that they asked for in the frame that ended last, if the pointer was in the window then. -/
theorem hand_back_completes {T In P N C : Type} {k : Toolkit T In P N C} [DecidableEq N]
    {toolkit : T} {config : Config} {display : Display} {gpu : Gpu} {shows : Nat}
    {moves : List CursorMove} {s : DeskWindow T P N C}
    (h : HandedBack k toolkit config display gpu shows moves s)
    (hshows : 2 ≤ shows) :
    ∃ frame, lastEnded? moves = some frame ∧ (frame.inside = true →
      (∀ icon, frame.asked.native? = some icon →
        s.world.display.cursorVisible = true ∧ s.world.display.cursorIcon = icon) ∧
      (frame.asked.native? = none → s.world.display.cursorVisible = false)) := by
  obtain ⟨frame, hlast, hshown⟩ := h.returning.settled (.inl hshows)
  refine ⟨frame, hlast, fun hinside => ⟨fun icon hicon => ?_, fun hnone => ?_⟩⟩
  · have hshows := hshown hinside
    rw [hicon] at hshows
    exact hshows
  · have hshows := hshown hinside
    rw [hnone] at hshows
    exact hshows

theorem hand_back_completes_twice : ∃ s : DeskWindow Unit Unit Unit Unit,
    HandedBack plainToolkit () { size := ⟨1, 1⟩ } {} {} 2 handedMoves s ∧
      s.world.display.cursorVisible = true ∧ s.world.display.cursorIcon = .default := by
  obtain ⟨s, h⟩ := exists_handedBack
  obtain ⟨frame, hlast, hshown⟩ := hand_back_completes h (by decide)
  obtain rfl : (⟨.default, true⟩ : EndedFrame) = frame := Option.some.inj hlast
  exact ⟨s, h, (hshown rfl).1 .default rfl⟩

end WindowHost.Native
