import WindowHost.Proofs.Record
import WindowHost.Script

/-!
# The cursor from frame to frame

A successful show tells the widgets once whether they may write the cursor, and that follows from
the arbitration of the show before and from the request in force now. Then the next frame begins,
and the cursor is settled on what the widgets want in it (`Shows`). Whatever else happens between
two shows leaves the arbitration, the pacing and the frame rate as they were and does not reach the
cursor.
-/

namespace WindowHost

variable {W α β Raw Frame : Type}

/-! ## Requests -/

/-- The request in force after a turn. -/
def Turn.onRequest (turn : Turn W α β Raw) (r : Cursor.Request) : Cursor.Request :=
  match turn.operation, turn.answer with
  | some op, .ok _ => op.onRequest r
  | _, _ => r

/-- The request in force after some turns of a window. -/
def requestInForce (turns : List (Turn W α β Raw)) : Cursor.Request :=
  turns.foldl (fun r turn => turn.onRequest r) {}

/-- Whether a turn was a show that succeeded. -/
def Turn.shown (turn : Turn W α β Raw) : Bool :=
  match turn.operation with
  | some .showFrame => turn.answer.isOk
  | _ => false

theorem requestInForce_append_singleton (turns : List (Turn W α β Raw)) (turn : Turn W α β Raw) :
    requestInForce (turns ++ [turn]) = turn.onRequest (requestInForce turns) := by
  rw [requestInForce, List.foldl_append]
  rfl

/-! ## A show that succeeds -/

/-- Calls that leave the cursor, the pacing and the frame rate alone. -/
def Call.Kind.quiet : List Call.Kind :=
  [.drawing, .presenting, .reading, .preparing, .closing, .pumping, .resizing]

/-- The calls of a successful show in the world `w`, where `previous` has driven the cursor since
the show before, and who drives it next. The widgets learn once whether they may write the cursor,
then the next frame begins, and arbitration takes the signals that the widgets give in it. -/
inductive Shows (d : Devices W α Raw Frame) (request : Cursor.Request) (previous : Cursor.Applied)
    (w : W) : List (Call α Raw Frame) → Cursor.Applied → Prop where
  | intro {before suppressed w' next} :
      OfKinds [.drawing, .presenting, .pumping, .resizing, .pacing, .titling] before →
      (suppressed = true ↔ (∃ shape, previous = .userShape shape) ∨ request.choice = .hidden) →
      d.Trace w (before ++ [.suppressCursor suppressed, .prepareRenderer, .prepareGui]) w' →
      next = Cursor.verdict request (Window.signal d w') →
      Shows d request previous w
        (before ++ [.suppressCursor suppressed, .prepareRenderer, .prepareGui] ++
          (Window.steering d previous next w' ++ Window.handBack previous next)) next

theorem Cursor.suppressesGui_iff (a : Cursor.Arbiter) :
    a.suppressesGui = true ↔
      (∃ shape, a.applied = .userShape shape) ∨ a.request.choice = .hidden := by
  unfold Arbiter.suppressesGui
  rw [Bool.or_eq_true, beq_iff_eq]
  cases a.applied <;> simp

namespace Window

open Recorded (Adds)

variable {d : Devices W α Raw Frame} {s s' : RecordedWindow W α β Raw Frame}

section Quiet

variable [Scalar α] [Narrowing α β]

/-- What arbitration, pacing and counting frames go by. -/
def beat (s : Window W α β) : Cursor.Arbiter × Pacing.Pacer α × Pacing.Rate :=
  (s.cursor, s.pacer, s.rate)

theorem deaf_beat : Deaf d.recorded (beat : RecordedWindow W α β Raw Frame → _) :=
  ⟨fun _ => rfl, fun _ => rfl, fun _ => rfl, fun _ _ => rfl, fun _ _ => rfl, fun _ _ _ => rfl,
    fun _ _ => rfl⟩

variable [Scalar β] {op : Operation (Recorded W α Raw Frame)}

theorem exec_setCursor_eq (d : Devices W α Raw Frame) (index : Int32) (force : Bool)
    (s : Window W α β) :
    exec ((Operation.setCursor index force).perform d) s =
      if s.config.showWindow then
        match Cursor.Request.ofIndex index force with
        | .ok request => (.ok .done, { s with cursor := s.cursor.setRequest request })
        | .error e => (.error (.failed e), s)
      else (.error (.failed (.noVisibleSurface .setCursor)), s) := by
  rw [Operation.perform, exec_bind, Window.setCursor, exec_bind, exec_requireVisible]
  rcases s.config.showWindow with _ | _
  · rfl
  · rcases Cursor.Request.ofIndex index force with _ | _ <;> rfl

theorem exec_setCursorRequest_eq (d : Devices W α Raw Frame) (request : Cursor.Request)
    (s : Window W α β) :
    exec ((Operation.setCursorRequest request).perform d) s =
      if s.config.showWindow then (.ok .done, { s with cursor := s.cursor.setRequest request })
      else (.error (.failed (.noVisibleSurface .setCursor)), s) := by
  rw [Operation.perform, exec_bind, Window.setCursorRequest, exec_bind, exec_requireVisible]
  rcases s.config.showWindow with _ | _ <;> rfl

omit [Scalar α] [Narrowing α β] [Scalar β] in
theorem lead_showFrame_makes :
    Makes d [.drawing, .presenting] (beat : RecordedWindow W α β Raw Frame → _)
      (Operation.showFrame.lead d.recorded) :=
  Operation.makes_lead (fun _ _ => rfl) (fun _ _ => rfl) _

/-- A show that fails has not got as far as pacing the frame. -/
theorem failed_show_makes (hs : s.Wired) {e : Halt}
    (h : exec (Operation.showFrame.perform d.recorded) s =
      ((.error e : Except Halt (Answer α β)), s')) :
    beat s' = beat s ∧
      ∃ calls, Adds d s.world calls s'.world ∧
        OfKinds [.drawing, .presenting, .pumping, .resizing] calls := by
  cases Operation.pumping rfl h with
  | refused hfirst => exact (lead_showFrame_makes.mono (by decide)).of_exec hfirst
  | broken hfirst hpump =>
    obtain ⟨hkeep, before, hbefore, hkinds⟩ := lead_showFrame_makes.of_exec hfirst
    obtain ⟨hkeep', calls, hcalls, hkinds'⟩ := pump_makes deaf_beat (hs.lead hfirst) hpump
    exact ⟨hkeep'.trans hkeep, _, hbefore.append hcalls,
      (hkinds.mono (by decide)).append (hkinds'.mono (by decide))⟩
  | @finished s₁ s₂ _ s' _ _ htail =>
    obtain ⟨s₃, -, -, -, hexec, -⟩ := exec_tail_showFrame (d := d) s₂
    rw [hexec] at htail
    cases htail

/-- Who drives the cursor, the pacing and the frame rate are as they were, and no call was for
them. -/
structure Undisturbed (s s' : RecordedWindow W α β Raw Frame) : Prop where
  applied : s'.cursor.applied = s.cursor.applied
  pacer : s'.pacer = s.pacer
  rate : s'.rate = s.rate
  calls : ∃ calls, s'.world.calls = s.world.calls ++ calls ∧ OfKinds Call.Kind.quiet calls

omit [Scalar α] [Narrowing α β] [Scalar β] in
theorem undisturbed_of_beat {kinds : List Call.Kind} (hsub : kinds ⊆ Call.Kind.quiet)
    (h : beat s' = beat s ∧ ∃ calls, Adds d s.world calls s'.world ∧ OfKinds kinds calls) :
    Undisturbed s s' ∧ s'.cursor.request = s.cursor.request := by
  obtain ⟨hbeat, calls, hadds, hkinds⟩ := h
  obtain ⟨hcursor, hrest⟩ := Prod.mk.inj hbeat
  obtain ⟨hpacer, hrate⟩ := Prod.mk.inj hrest
  refine ⟨⟨?_, hpacer, hrate, calls, hadds.record, hkinds.mono hsub⟩, ?_⟩
  · rw [hcursor]
  · rw [hcursor]

omit [Scalar α] [Narrowing α β] [Scalar β] in
theorem undisturbed_setRequest (s : RecordedWindow W α β Raw Frame) (request : Cursor.Request) :
    Undisturbed s { s with cursor := s.cursor.setRequest request } :=
  ⟨rfl, rfl, rfl, [], (List.append_nil _).symm, ofKinds_nil⟩

/-- Everything but a show that succeeds is quiet about the cursor, and sets the request in force at
most. -/
theorem exec_perform_undisturbed (hs : s.Wired) (hop : op.Spares Recorded.calls)
    {res : Except Halt (Answer α β)} (h : exec (op.perform d.recorded) s = (res, s'))
    (hquiet : op = .showFrame → res.isOk = false) :
    Undisturbed s s' ∧ s'.cursor.request =
      if res.isOk then op.onRequest s.cursor.request else s.cursor.request := by
  -- only a request touches the arbitration, and of it only the request in force
  have hkept {kinds : List Call.Kind} (hsub : kinds ⊆ Call.Kind.quiet)
      (hrequest : ∀ r, op.onRequest r = r)
      (hmakes : beat s' = beat s ∧
        ∃ calls, Adds d s.world calls s'.world ∧ OfKinds kinds calls) :
      Undisturbed s s' ∧ s'.cursor.request =
        if res.isOk then op.onRequest s.cursor.request else s.cursor.request := by
    rw [hrequest, ite_self]
    exact undisturbed_of_beat hsub hmakes
  cases op with
  | showFrame =>
    rcases res with e | a
    · exact hkept (by decide) (fun _ => rfl) (failed_show_makes hs h)
    · exact absurd (hquiet rfl) nofun
  | pollEvents | pollOneEvent =>
    exact hkept (by decide) (fun _ => rfl)
      (Operation.poll_makes deaf_beat (fun _ _ => rfl) hs rfl rfl h)
  | outside g =>
    cases h
    have hcalls : (g s.world).calls = s.world.calls := hop s.world
    exact ⟨⟨rfl, rfl, rfl, [], hcalls.trans (List.append_nil _).symm, ofKinds_nil⟩, rfl⟩
  | setCursor index force =>
    rw [exec_setCursor_eq] at h
    split at h
    · rcases hof : Cursor.Request.ofIndex index force with e | request
      · rw [hof] at h
        cases h
        exact ⟨undisturbed_setRequest s s.cursor.request, rfl⟩
      · rw [hof] at h
        cases h
        refine ⟨undisturbed_setRequest s request, ?_⟩
        rw [Operation.onRequest, hof]
        rfl
    · cases h
      exact ⟨undisturbed_setRequest s s.cursor.request, rfl⟩
  | setCursorRequest request =>
    rw [exec_setCursorRequest_eq] at h
    split at h
    · cases h
      exact ⟨undisturbed_setRequest s request, rfl⟩
    · cases h
      exact ⟨undisturbed_setRequest s s.cursor.request, rfl⟩
  | _ =>
    exact hkept (by decide) (fun _ => rfl) ((Operation.makes_perform (d := d) (f := beat)
      (fun _ _ => rfl) (fun _ _ => rfl) (fun _ _ => rfl) (fun _ _ => rfl) (fun _ => rfl)
      rfl rfl).of_exec h)

/-- A show that succeeds. -/
theorem exec_show (hs : s.Wired) {a : Answer α β}
    (h : exec (Operation.showFrame.perform d.recorded) s = (.ok a, s')) :
    ∃ calls, s'.world.calls = s.world.calls ++ calls ∧
      Shows d s.cursor.request s.cursor.applied s.world.world calls s'.cursor.applied ∧
      s'.cursor.request = s.cursor.request := by
  cases Operation.pumping rfl h with
  | @finished s₁ s₂ _ s' hfirst hpump htail =>
    obtain ⟨hkeep, drawn, hdrawn, hdrawing⟩ := lead_showFrame_makes.of_exec hfirst
    obtain ⟨hkeep', pumped, hpumped, hpumping⟩ := pump_makes deaf_beat (hs.lead hfirst) hpump
    obtain ⟨s₃, w, paced, next, hexec, hpaced, hpacing, hnext, hturn, hcursor', -⟩ :=
      exec_tail_showFrame (d := d) s₂
    rw [hexec] at htail
    cases htail
    have hcursor : s₂.cursor = s.cursor := congrArg Prod.fst (hkeep'.trans hkeep)
    rw [hcursor] at hnext hturn hcursor'
    have hbefore := (hdrawn.append hpumped).append hpaced
    have hkinds : OfKinds [.drawing, .presenting, .pumping, .resizing, .pacing, .titling]
        (drawn ++ pumped ++ paced) :=
      ((hdrawing.mono (by decide)).append (hpumping.mono (by decide))).append
        (hpacing.mono (by decide))
    have hprepared : d.Trace w.world
        [.suppressCursor s.cursor.suppressesGui, .prepareRenderer, .prepareGui]
        (settlingWorld d s.cursor.suppressesGui w.world) :=
      .cons (.suppressCursor _ _) (.cons (.prepareRenderer _) (.single (.prepareGui _)))
    rw [hcursor']
    refine ⟨_, (hbefore.append hturn).record, ?_, rfl⟩
    rw [← List.append_assoc (drawn ++ pumped ++ paced)]
    exact .intro hkinds (Cursor.suppressesGui_iff s.cursor) (hbefore.trace.append hprepared) hnext

end Quiet

end Window

section Shows

variable {d : Devices W α Raw Frame} {request : Cursor.Request} {previous next : Cursor.Applied}
  {w : W} {calls : List (Call α Raw Frame)}

theorem Window.countP_handBack (previous next : Cursor.Applied) :
    (Window.handBack previous next : List (Call α Raw Frame)).countP
        (fun call => call.kind == .reclaiming) =
      if next = .guiControlled ∧ previous ≠ .guiControlled then 1 else 0 := by
  unfold Window.handBack
  split <;> rfl

/-- The widgets are told once whether they may write the cursor. -/
theorem Shows.countP_suppressing (h : Shows d request previous w calls next) :
    calls.countP (fun call => call.kind == .suppressing) = 1 := by
  obtain ⟨hbefore, -, -, -⟩ := h
  rw [List.countP_append, List.countP_append, hbefore.countP_kind (by decide),
    (Window.ofKinds_settling _ _ _).countP_kind (by decide)]
  rfl

/-- The widgets are told that the cursor is theirs again exactly if it was not before. -/
theorem Shows.countP_reclaiming (h : Shows d request previous w calls next) :
    calls.countP (fun call => call.kind == .reclaiming) =
      if next = .guiControlled ∧ previous ≠ .guiControlled then 1 else 0 := by
  obtain ⟨hbefore, -, -, -⟩ := h
  rw [List.countP_append, List.countP_append, List.countP_append,
    hbefore.countP_kind (by decide), (Window.ofKinds_steering _ _ _).countP_kind (by decide),
    Window.countP_handBack, Nat.zero_add, Nat.zero_add]
  exact Nat.zero_add _

end Shows

namespace Window

open Recorded (Adds)

variable {d : Devices W α Raw Frame} {s s' : RecordedWindow W α β Raw Frame}

/-! ## From show to show -/

section Course

variable [Scalar α] [Narrowing α β] [Scalar β] {config : Config} {world : W}
  {s₁ : RecordedWindow W α β Raw Frame} {turn : Turn (Recorded W α Raw Frame) α β Raw}
  {turns earlier later : List (Turn (Recorded W α Raw Frame) α β Raw)}

omit [Scalar α] [Narrowing α β] [Scalar β] in
theorem shown_eq_false {op : Operation (Recorded W α Raw Frame)}
    (hop : turn.operation = some op) (h : turn.shown = false) :
    op = .showFrame → (turn.answer.mapError Halt.failed).isOk = false := by
  rintro rfl
  rw [Turn.shown, hop] at h
  rw [isOk_mapError]
  exact h

theorem Step.undisturbed (hs : s.Wired) (h : Step d.recorded s turn s')
    (hout : turn.Spares Recorded.calls) (hshown : turn.shown = false) : Undisturbed s s' := by
  obtain ⟨op, hop, hexec⟩ := h.exec_eq
  exact (exec_perform_undisturbed hs (hout op hop) hexec (shown_eq_false hop hshown)).1

theorem Step.request (hs : s.Wired) (h : Step d.recorded s turn s')
    (hout : turn.Spares Recorded.calls) : s'.cursor.request = turn.onRequest s.cursor.request := by
  obtain ⟨op, hop, hexec⟩ := h.exec_eq
  rcases hshown : turn.shown with _ | _
  · have hrequest := (exec_perform_undisturbed hs (hout op hop) hexec (shown_eq_false hop hshown)).2
    rw [hrequest, isOk_mapError, Turn.onRequest, hop]
    cases turn.answer <;> rfl
  · cases op with
    | showFrame =>
      rcases hanswer : turn.answer with e | a
      · rw [Turn.shown, hop, hanswer] at hshown
        cases hshown
      · rw [hanswer] at hexec
        obtain ⟨-, -, -, hrequest⟩ := exec_show hs hexec
        rw [hrequest, Turn.onRequest, hop, hanswer]
        rfl
    | _ =>
      rw [Turn.shown, hop] at hshown
      cases hshown

/-- Nothing has asked for the cursor of a window that was just opened. -/
theorem cursor_opened {ds : List (Delivery α Raw)}
    (hends : Ends d.recorded (fresh d.recorded config ⟨world, []⟩) (openingBatch config) ds
      (.ok (), s₁))
    (hprepare : exec (prepareForNextFrame d.recorded) s₁ = (.ok (), s)) : s.cursor = {} := by
  have hbeat : beat s₁ = beat _ := hends.keeps deaf_beat
  have hcursor : s.cursor = s₁.cursor :=
    (keeps_prepareForNextFrame d.recorded (f := Window.cursor) ⟨fun _ _ => rfl, fun _ _ => rfl⟩).eq
      hprepare
  rw [hcursor]
  exact congrArg Prod.fst hbeat

theorem Course.request_eq (h : Course d.recorded config ⟨world, []⟩ turns s)
    (hout : ∀ turn ∈ turns, turn.Spares Recorded.calls) :
    s.cursor.request = requestInForce turns := by
  induction h with
  | opened _ hends hprepare =>
    rw [cursor_opened hends hprepare]
    rfl
  | next hcourse hstep ih =>
    rw [hstep.request hcourse.wired (hout _ (List.mem_append_right _ (.head _))),
      ih fun turn hturn => hout turn (List.mem_append_left _ hturn),
      requestInForce_append_singleton]

/-- Until the first show that succeeds the widgets drive the cursor. -/
theorem Course.applied_of_not_shown (h : Course d.recorded config ⟨world, []⟩ turns s)
    (hout : ∀ turn ∈ turns, turn.Spares Recorded.calls)
    (hshown : ∀ turn ∈ turns, turn.shown = false) : s.cursor.applied = .guiControlled := by
  induction h with
  | opened _ hends hprepare => rw [cursor_opened hends hprepare]
  | next hcourse hstep ih =>
    have hlast := hstep.undisturbed hcourse.wired (hout _ (List.mem_append_right _ (.head _)))
      (hshown _ (List.mem_append_right _ (.head _)))
    rw [hlast.applied]
    exact ih (fun turn hturn => hout turn (List.mem_append_left _ hturn))
      fun turn hturn => hshown turn (List.mem_append_left _ hturn)

/-- Between two shows that succeed the same one drives the cursor. -/
theorem Steps.applied (hs : s.Wired) (h : Steps d.recorded s turns s')
    (hout : ∀ turn ∈ turns, turn.Spares Recorded.calls)
    (hshown : ∀ turn ∈ turns, turn.shown = false) : s'.cursor.applied = s.cursor.applied := by
  induction h with
  | nil => rfl
  | cons hstep _ ih =>
    have hfirst := hstep.undisturbed hs (hout _ (.head _)) (hshown _ (.head _))
    rw [← hfirst.applied]
    exact ih (hs.step hstep) (fun turn hturn => hout turn (List.mem_cons_of_mem _ hturn))
      fun turn hturn => hshown turn (List.mem_cons_of_mem _ hturn)

/-- Let `s₁` be a window after a show that has succeeded, or after its opening, and `s` the same
window after further operations among which no show has succeeded. If the next operation is a show
that succeeds, it tells the widgets once whether they may write the cursor, which follows from who
has driven it in `s₁` and from the request in force; it begins the next frame; and it settles the
cursor on that request and on what the widgets want then. Any other operation, and a show that
fails, leaves all of this as it was. -/
theorem cursor_protocol (h : Course d.recorded config ⟨world, []⟩ earlier s₁)
    (h' : Steps d.recorded s₁ later s) (hshown : ∀ turn ∈ later, turn.shown = false)
    (hout : ∀ turn ∈ earlier ++ later, turn.Spares Recorded.calls) :
    ((∀ turn ∈ earlier, turn.shown = false) → s₁.cursor.applied = .guiControlled) ∧
      (∀ a s', exec (Operation.showFrame.perform d.recorded) s = (.ok a, s') →
        ∃ calls, s'.world.calls = s.world.calls ++ calls ∧
          Shows d (requestInForce (earlier ++ later)) s₁.cursor.applied s.world.world calls
            s'.cursor.applied ∧
          calls.countP (fun call => call.kind == .suppressing) = 1 ∧
          calls.countP (fun call => call.kind == .reclaiming) =
            if s'.cursor.applied = .guiControlled ∧ s₁.cursor.applied ≠ .guiControlled then 1
            else 0) ∧
      ∀ (op : Operation (Recorded W α Raw Frame)) res s', op.Spares Recorded.calls →
        exec (op.perform d.recorded) s = (res, s') → (op = .showFrame → res.isOk = false) →
        Undisturbed s s' := by
  have hcourse := h.append h'
  have happlied : s.cursor.applied = s₁.cursor.applied :=
    h'.applied h.wired (fun turn hturn => hout turn (List.mem_append_right _ hturn)) hshown
  refine ⟨h.applied_of_not_shown fun turn hturn => hout turn (List.mem_append_left _ hturn),
    fun a s' hexec => ?_, fun op res s' hop hexec hquiet => ?_⟩
  · obtain ⟨calls, hcalls, hshows, -⟩ := exec_show hcourse.wired hexec
    rw [hcourse.request_eq hout, happlied] at hshows
    exact ⟨calls, hcalls, hshows, hshows.countP_suppressing, hshows.countP_reclaiming⟩
  · exact (exec_perform_undisturbed hcourse.wired hop hexec hquiet).1

end Course

def plainStage : Script.Stage Rat Unit where
  platform := { size := ⟨2, 1⟩ }
  renderer := { size := ⟨2, 1⟩ }
  gui := {}
  clock := {}

def handRequest : Cursor.Request := { choice := .shape .hand }

/-- The renderer will lose its surface once. -/
def loseSurface (w : Recorded (Script.Stage Rat Unit) Rat Unit Nat) :
    Recorded (Script.Stage Rat Unit) Rat Unit Nat :=
  { w with
    world := { w.world with
      renderer := { w.world.renderer with failures := [(.present, .surface "lost")] } } }

/-- A window in which the host has asked for a hand. -/
def askedWindow : RecordedWindow (Script.Stage Rat Unit) Rat Rat Unit Nat :=
  (exec ((Operation.setCursorRequest handRequest).perform Script.devices.recorded)
    (openWith Script.devices.recorded {} ⟨plainStage, []⟩).2).2

/-- The same window after a frame with the hand. -/
def handWindow : RecordedWindow (Script.Stage Rat Unit) Rat Rat Unit Nat :=
  (exec (Operation.showFrame.perform Script.devices.recorded) askedWindow).2

/-- Then the host asks for nothing any more. -/
def releasedWindow : RecordedWindow (Script.Stage Rat Unit) Rat Rat Unit Nat :=
  (exec ((Operation.setCursorRequest {}).perform Script.devices.recorded) handWindow).2

/-- Then a show fails. -/
def lostWindow : RecordedWindow (Script.Stage Rat Unit) Rat Rat Unit Nat :=
  (exec (Operation.showFrame.perform Script.devices.recorded)
    (releasedWindow.inWorld (loseSurface releasedWindow.world))).2

/-- The next show, with its answer and the window that it leaves. -/
def returnShow :
    Except Halt (Answer Rat Rat) × RecordedWindow (Script.Stage Rat Unit) Rat Rat Unit Nat :=
  exec (Operation.showFrame.perform Script.devices.recorded) lostWindow

/-- The widgets get the cursor back in the next show that succeeds, but still may not write it in
that frame. -/
theorem cursor_protocol_handed_back :
    handWindow.cursor.applied = .userShape .hand ∧
      returnShow.2.cursor.applied = .guiControlled ∧
      ∃ calls, returnShow.2.world.calls = lostWindow.world.calls ++ calls ∧
        Shows Script.devices {} (.userShape .hand) lostWindow.world.world calls .guiControlled ∧
        calls.countP (fun call => call.kind == .suppressing) = 1 ∧
        calls.countP (fun call => call.kind == .reclaiming) = 1 := by
  obtain ⟨ds, h⟩ := exists_opened (d := Script.devices.recorded)
    (s := (openWith Script.devices.recorded {} ⟨plainStage, []⟩).2)
    (show openWith Script.devices.recorded {} ⟨plainStage, []⟩ = (.ok (), _) from rfl)
  obtain ⟨batch₁, ds₁, h₁⟩ := h.exists_next (.setCursorRequest handRequest) (.ok .done)
    (show _ = (_, askedWindow) from rfl)
  obtain ⟨a₂, h₂⟩ : ∃ a, exec (Operation.showFrame.perform Script.devices.recorded) askedWindow =
    (.ok a, handWindow) := exists_eq_ok (by decide +kernel)
  obtain ⟨batch₂, ds₂, h₂⟩ := h₁.exists_next .showFrame (.ok a₂) h₂
  -- what happens before the next show that succeeds
  obtain ⟨a₃, h₃⟩ : ∃ a, exec ((Operation.setCursorRequest {}).perform Script.devices.recorded)
    handWindow = (.ok a, releasedWindow) := exists_eq_ok (by decide +kernel)
  obtain ⟨batch₃, ds₃, h₃⟩ := exists_step (a := .ok a₃) h₂.wired h₃
  have hs₃ : releasedWindow.Wired := h₂.wired.step h₃
  obtain ⟨batch₄, ds₄, h₄⟩ := exists_step hs₃ (a := .ok .done)
    (show exec ((Operation.outside loseSurface).perform Script.devices.recorded) releasedWindow =
      (_, releasedWindow.inWorld (loseSurface releasedWindow.world)) from rfl)
  obtain ⟨e, h₅⟩ : ∃ e, exec (Operation.showFrame.perform Script.devices.recorded)
    (releasedWindow.inWorld (loseSurface releasedWindow.world)) =
      (.error (.failed e), lostWindow) := exists_eq_failed (by decide +kernel)
  obtain ⟨batch₅, ds₅, h₅⟩ := exists_step (a := .error e) (hs₃.step h₄) h₅
  obtain ⟨-, hshow, -⟩ := cursor_protocol h₂ (.cons h₃ (.cons h₄ (.cons h₅ .nil)))
    (by simp [Turn.shown, Except.isOk, Except.toBool])
    (List.forall_mem_append.2
      ⟨spares_next (spares_next spares_opened (.setCursorRequest handRequest) trivial) .showFrame
          trivial,
        List.forall_mem_cons.2 ⟨Turn.spares_some trivial, List.forall_mem_cons.2
          ⟨Turn.spares_some fun _ => rfl, List.forall_mem_singleton.2 (Turn.spares_some trivial)⟩⟩⟩)
  obtain ⟨b, hreturn⟩ := exists_eq_ok (p := returnShow) (by decide +kernel)
  obtain ⟨calls, hcalls, hshows, hsuppress, hreclaim⟩ := hshow _ _ hreturn
  have hgiven : handWindow.cursor.applied = .userShape .hand := by decide +kernel
  have htaken : returnShow.2.cursor.applied = .guiControlled := by decide +kernel
  rw [hgiven, htaken] at hshows hreclaim
  -- what is in force is the last request
  exact ⟨hgiven, htaken, calls, hcalls, hshows, hsuppress, hreclaim⟩

end Window

end WindowHost
