import WindowHost.Proofs.FrameProtocol

/-!
# Windows without a surface

A window without a visible surface is drawn and read, and never shown. Each operation that needs a
surface is refused before it does anything, and the others work with the renderer and the widgets
alone. So a whole course is the same on any platform, and nothing of the window changes in it but
its devices and whether the frame at hand was drawn.
-/

namespace WindowHost

variable {W α β Raw Frame : Type}

/-- What an operation needs a visible surface for, as its error names it. -/
def Operation.surface? : Operation W → Option SurfaceOperation
  | .showFrame => some .showFrame
  | .cursorPosition => some .cursorPosition
  | .takeScrollDelta => some .takeScrollDelta
  | .pollEvents _ => some .pollEvents
  | .pollOneEvent _ => some .pollOneEvent
  | .currentEvent => some .currentEvent
  | .setCurrentEvent _ => some .setCurrentEvent
  | .setCursor .. | .setCursorRequest _ => some .setCursor
  | .guiWantsMouse => some .guiWantsMouse
  | .guiWantsKeyboard => some .guiWantsKeyboard
  | _ => none

namespace Window

/-! ## Operations that end -/

/-- Whatever becomes of `m`, it does not wait in vain. -/
def Halts {r : Type} (m : WindowM W α β r) : Prop := ∀ s, (exec m s).1 ≠ .error .stalled

section Halts

variable {r t : Type} {m m' : WindowM W α β r}

theorem halts_pure (x : r) : Halts (pure x : WindowM W α β r) := fun _ => nofun

theorem halts_get : Halts (get : WindowM W α β _) := fun _ => nofun

theorem halts_modify (g : Window W α β → Window W α β) :
    Halts (modify g : WindowM W α β PUnit) := fun _ => nofun

theorem halts_act (g : W → W) : Halts (act g : WindowM W α β Unit) := fun _ => nofun

theorem halts_ask (g : W → r × W) : Halts (ask g : WindowM W α β r) := fun _ => nofun

theorem halts_attempt (g : W → Except BackendError r × W) :
    Halts (attempt g : WindowM W α β r) := by
  intro s
  rw [exec_attempt]
  rcases (g s.world).1 with e | x <;> exact nofun

theorem Halts.bind (hm : Halts m) {n : r → WindowM W α β t} (hn : ∀ x, Halts (n x)) :
    Halts (m >>= n) := by
  intro s
  rw [exec_bind]
  have hfirst := hm s
  rcases hexec : exec m s with ⟨e | x, s₁⟩
  · rw [hexec] at hfirst
    intro h
    exact hfirst (congrArg Except.error (Except.error.inj h))
  · exact hn x s₁

theorem Halts.ite {p : Prop} [Decidable p] (hm : Halts m) (hm' : Halts m') :
    Halts (if p then m else m') := by
  split
  · exact hm
  · exact hm'

/-- An outcome other than a wait in vain is an answer or an error of the window. -/
theorem Halts.answer (hm : Halts m) (s : Window W α β) :
    ∃ a : Except WindowError r, (exec m s).1 = a.mapError .failed := by
  rcases hres : (exec m s).1 with (e | _) | x
  · exact ⟨.error e, rfl⟩
  · exact absurd hres (hm s)
  · exact ⟨.ok x, rfl⟩

variable (d : Devices W α Raw Frame)

theorem halts_prepareForNextFrame : Halts (prepareForNextFrame d : WindowM W α β Unit) :=
  (halts_act _).bind fun _ => (halts_act _).bind fun _ => halts_modify _

theorem halts_drawFrame : Halts (drawFrame d : WindowM W α β Unit) :=
  (halts_ask _).bind fun _ => (halts_attempt _).bind fun _ => halts_modify _

theorem halts_readFrame (g : W → Except BackendError r × W) (h : r → t) :
    Halts (Operation.readFrame d g h : WindowM W α β t) := by
  have hdraw : Halts (ensureDrawn d : WindowM W α β Unit) :=
    halts_get.bind fun _ => (halts_pure _).ite (halts_drawFrame d)
  have hfinish : Halts (finishRead d : WindowM W α β Unit) :=
    halts_get.bind fun _ => (halts_pure _).ite (halts_prepareForNextFrame d)
  exact hdraw.bind fun _ => (halts_attempt g).bind fun _ => hfinish.bind fun _ => halts_pure _

variable [Scalar α] [Narrowing α β] [Scalar β]

/-- An operation on frames that does not pump never waits. -/
theorem halts_frameWork {op : Operation W} (hop : op.pumps = false)
    (hframe : op.isFrameWork = true) : Halts (op.perform (β := β) d) := by
  cases op with
  | showFrame => cases hop
  | drawFrame => exact (halts_drawFrame d).bind fun _ => halts_pure _
  | dumpImage =>
    rw [Operation.perform_dumpImage]
    exact halts_readFrame d _ _
  | writeImage path =>
    rw [Operation.perform_writeImage]
    exact halts_readFrame d _ _
  | copyDepth target =>
    rw [Operation.perform_copyDepth]
    exact halts_readFrame d _ _
  | _ => cases hframe

end Halts

/-! ## Without a surface -/

section Hidden

variable [Scalar α] [Narrowing α β] [Scalar β] {d : Devices W α Raw Frame} {s s' : Window W α β}
  {op : Operation W} {o : SurfaceOperation}

omit [Scalar α] [Narrowing α β] [Scalar β] in
theorem exec_requireVisible_hidden (hhidden : s.config.showWindow = false) (o : SurfaceOperation) :
    exec (requireVisible o : WindowM W α β Unit) s = (.error (.failed (.noVisibleSurface o)), s) :=
  exec_requireVisible_error (by rw [hhidden]; decide) o

/-- An operation that needs a surface does nothing but report that there is none. -/
theorem exec_perform_refused (hhidden : s.config.showWindow = false) (ho : op.surface? = some o) :
    exec (op.perform d) s = (.error (.failed (.noVisibleSurface o)), s) := by
  have hbind {r t : Type} (o : SurfaceOperation) (m : Unit → WindowM W α β r)
      (n : r → WindowM W α β t) :
      exec (requireVisible o >>= m >>= n) s = (.error (.failed (.noVisibleSurface o)), s) :=
    exec_bind_of_error (exec_bind_of_error (exec_requireVisible_hidden hhidden o) m) n
  have hmap {r t : Type} (o : SurfaceOperation) (m : Unit → WindowM W α β r) (g : r → t) :
      exec (g <$> (requireVisible o >>= m)) s = (.error (.failed (.noVisibleSurface o)), s) := by
    rw [exec_map, exec_bind_of_error (exec_requireVisible_hidden hhidden o)]
    rfl
  cases op with
  | showFrame | setCurrentEvent | setCursor | setCursorRequest =>
    obtain rfl := Option.some.inj ho
    exact hbind _ _ _
  | cursorPosition | takeScrollDelta | pollEvents | pollOneEvent | currentEvent | guiWantsMouse
  | guiWantsKeyboard =>
    obtain rfl := Option.some.inj ho
    exact hmap _ _ _
  | _ => cases ho

variable (Raw Frame) in
omit [Scalar α] [Narrowing α β] [Scalar β] in
/-- On no devices does an operation get so far as to pump. -/
theorem exec_lead_refused (hhidden : s.config.showWindow = false) (hop : op.pumps = true) :
    ∃ o, ∀ d : Devices W α Raw Frame,
      exec (op.lead d) s = (.error (.failed (.noVisibleSurface o)), s) := by
  cases op with
  | showFrame => exact ⟨_, fun d => exec_bind_of_error (exec_requireVisible_hidden hhidden _) _⟩
  | pollEvents | pollOneEvent => exact ⟨_, fun d => exec_requireVisible_hidden hhidden _⟩
  | _ => cases hop

/-- Without a surface only the work on frames changes anything. -/
theorem exec_perform_unmoved (hhidden : s.config.showWindow = false)
    (hframe : op.isFrameWork = false) (hout : op.isOutside = false) :
    ∃ a : Except WindowError (Answer α β), exec (op.perform d) s = (a.mapError .failed, s) := by
  rcases hsurface : op.surface? with _ | o
  · cases op with
    | requestStop stop =>
      refine ⟨.ok .done, ?_⟩
      rw [Operation.perform, requestStop, bind_assoc, exec_bind_of_ok (exec_get s)]
      simp [hhidden]
      rfl
    | isRunning | isPressed | isAnyPressed | appliedCursor | shape => exact ⟨.ok _, rfl⟩
    | drawFrame | dumpImage | writeImage | copyDepth => cases hframe
    | outside => cases hout
    | _ => cases hsurface
  · exact ⟨.error _, exec_perform_refused hhidden hsurface⟩

/-- Without a surface neither the platform nor the clock matters to an operation. -/
theorem exec_perform_elsewhere (hhidden : s.config.showWindow = false)
    (p : Platform W α Raw) (c : Pacing.Clock W) (op : Operation W) :
    exec (op.perform { d with platform := p, clock := c }) s = exec (op.perform d) s := by
  rcases hsurface : op.surface? with _ | o
  · cases op with
    | requestStop stop =>
      simp only [Operation.perform, requestStop, bind_assoc, exec_bind_of_ok (exec_get s)]
      simp [hhidden]
    | isRunning =>
      have hruns (d : Devices W α Raw Frame) : s.isRunning d = true := by simp [isRunning, hhidden]
      show (Except.ok (Answer.flag (s.isRunning _)), s) =
        (Except.ok (Answer.flag (s.isRunning _)), s)
      rw [hruns, hruns]
    | isPressed | isAnyPressed | appliedCursor | shape | drawFrame | dumpImage | writeImage
    | copyDepth | outside => rfl
    | _ => cases hsurface
  · rw [exec_perform_refused hhidden hsurface, exec_perform_refused hhidden hsurface]

/-- A step without a surface is the same on any platform. -/
theorem Step.elsewhere {turn : Turn W α β Raw} (hhidden : s.config.showWindow = false)
    (h : Step d s turn s') (p : Platform W α Raw) : Step { d with platform := p } s turn s' := by
  cases h with
  | @alone op a s' hop h =>
    exact .alone hop ((exec_perform_elsewhere hhidden p d.clock op).trans h)
  | @refused op e s' hop h =>
    obtain ⟨o, hlead⟩ := exec_lead_refused Raw Frame hhidden hop
    rw [hlead d, ← hlead { d with platform := p }] at h
    exact .refused hop h
  | interrupted hop h | pumped hop h =>
    obtain ⟨o, hlead⟩ := exec_lead_refused Raw Frame hhidden hop
    rw [hlead] at h
    cases h

end Hidden

/-! ## Courses without a surface -/

/-- A window in any world and with its frame drawn or not: where two windows agree in this, nothing
else tells them apart. -/
def still (s : Window W α β) (world : W) (drawn : Bool) : Window W α β := { s with world, drawn }

section Course

variable [Scalar α] [Narrowing α β] [Scalar β] {d : Devices W α Raw Frame} {config : Config}
  {world : W} {s s₁ : Window W α β} {turns : List (Turn W α β Raw)} {ds : List (Delivery α Raw)}

theorem openWith_hidden (hflaw : config.flaw? = none) (hhidden : config.showWindow = false) :
    openWith d config world =
      exec (prepareForNextFrame d) (fresh d config world : Window W α β) := by
  simp only [openWith, hflaw, hhidden]
  rfl

omit [Scalar β] in
/-- Opening a window without a surface delivers nothing. -/
theorem ends_hidden (hhidden : config.showWindow = false)
    (hends : Ends d s (openingBatch config) ds (.ok (), s₁)) : ds = [] ∧ s₁ = s := by
  obtain ⟨hflat, hpath⟩ := hends.of_ok
  rw [openingBatch, hhidden] at hflat
  cases hflat
  cases hpath
  exact ⟨rfl, rfl⟩

theorem Course.hidden (h : Course d config world turns s) (hhidden : config.showWindow = false) :
    s.config.showWindow = false := by
  rw [h.config_eq]
  exact hhidden

/-- A course without a surface is the same on any platform. -/
theorem Course.elsewhere (h : Course d config world turns s)
    (hhidden : config.showWindow = false) (p : Platform W α Raw) :
    Course { d with platform := p } config world turns s := by
  induction h with
  | opened hopen hends hprepare =>
    obtain ⟨rfl, rfl⟩ := ends_hidden hhidden hends
    have hopen' : openWith { d with platform := p } config world = (.ok (), _) :=
      (openWith_hidden (openWith_ends hopen).1 hhidden).trans hprepare
    have hbatch : (openingBatch config : List (Report α Raw)) = [] := by
      rw [openingBatch, hhidden]
      rfl
    refine .opened hopen' ?_ hprepare
    rw [hbatch]
    exact .done .nil .nil
  | next hcourse hstep ih => exact ih.next (hstep.elsewhere (hcourse.hidden hhidden) p)

end Course

section Recorded

open Recorded (Adds adds_nil)

variable [Scalar α] [Narrowing α β] [Scalar β] {d : Devices W α Raw Frame} {config : Config}
  {world : W} {s s' : RecordedWindow W α β Raw Frame}
  {turns : List (Turn (Recorded W α Raw Frame) α β Raw)}
  {op : Operation (Recorded W α Raw Frame)}

/-- Without a surface an operation calls the renderer and the widgets alone. -/
theorem exec_perform_headless (hhidden : s.config.showWindow = false)
    (hout : op.isOutside = false) :
    ∃ (a : Except WindowError (Answer α β)) (s' : RecordedWindow W α β Raw Frame)
      (calls : List (Call α Raw Frame)),
      exec (op.perform d.recorded) s = (a.mapError .failed, s') ∧ s'.still = s.still ∧
        Adds d s.world calls s'.world ∧ OfKinds [.drawing, .reading, .preparing] calls ∧
        (op.isFrameWork = false → s' = s) := by
  rcases hframe : op.isFrameWork with _ | _
  · obtain ⟨a, ha⟩ := exec_perform_unmoved (d := d.recorded) hhidden hframe hout
    exact ⟨a, s, [], ha, rfl, adds_nil, ofKinds_nil, fun _ => rfl⟩
  rcases hop : op.pumps with _ | _
  · obtain ⟨a, ha⟩ := (halts_frameWork d.recorded hop hframe).answer s
    obtain ⟨hstill, calls, hadds, hkinds⟩ := Operation.makes_frameWork (d := d) (f := still)
      (fun _ _ => rfl) (fun _ _ => rfl) hop hframe s
    exact ⟨a, _, calls, Prod.ext ha rfl, hstill, hadds, hkinds, nofun⟩
  · obtain ⟨o, ho⟩ : ∃ o, op.surface? = some o := by
      cases op with
      | showFrame | pollEvents | pollOneEvent => exact ⟨_, rfl⟩
      | _ => cases hop
    exact ⟨.error _, s, [], exec_perform_refused hhidden ho, rfl, adds_nil, ofKinds_nil,
      fun _ => rfl⟩

/-- A course without a surface calls the renderer and the widgets alone, and nothing changes in it
but the devices and whether the frame was drawn. -/
theorem Course.headless (h : Course d.recorded config ⟨world, []⟩ turns s)
    (hout : ∀ turn ∈ turns, turn.Spares Recorded.calls) (hhidden : config.showWindow = false) :
    s.still = (fresh d.recorded config ⟨world, []⟩ : RecordedWindow W α β Raw Frame).still ∧
      OfKinds [.drawing, .reading, .preparing] s.world.calls := by
  induction h with
  | opened hopen hends hprepare =>
    obtain ⟨-, rfl⟩ := ends_hidden hhidden hends
    obtain ⟨hstill, calls, hadds, hkinds⟩ := (makes_prepareForNextFrame (d := d) (f := still)
      (fun _ _ => rfl) (fun _ _ => rfl)).of_exec hprepare
    refine ⟨hstill, ?_⟩
    rw [hadds.record]
    exact hkinds.mono (by decide)
  | @next turns s turn s' hcourse hstep ih =>
    obtain ⟨hstill, hkinds⟩ := ih fun turn hturn => hout turn (List.mem_append_left _ hturn)
    obtain ⟨op, hop, hexec⟩ := hstep.exec_eq
    rcases hoff : op.isOutside with _ | _
    · obtain ⟨a, s₁, calls, hexec', hstill', hadds, hkinds', -⟩ :=
        exec_perform_headless (d := d) (hcourse.hidden hhidden) hoff
      obtain ⟨-, rfl⟩ := Prod.mk.inj (hexec.symm.trans hexec')
      refine ⟨hstill'.trans hstill, ?_⟩
      rw [hadds.record]
      exact hkinds.append hkinds'
    · cases op with
      | outside g =>
        have hspares := hout turn (List.mem_append_right _ List.mem_cons_self) _ hop
        obtain ⟨-, rfl⟩ := Prod.mk.inj hexec
        refine ⟨hstill, ?_⟩
        show OfKinds _ (g s.world).calls
        rw [hspares s.world]
        exact hkinds
      | _ => cases hoff

/-- In every course of a window without a surface the renderer and the widgets are called and no
other device, the renderer only to draw, to read and to turn the frame, and the whole course is the
same on any platform. The window stays as it was opened but for its devices and whether its frame
was drawn: it has its settings, no event and no button down, and it runs. After every course, what
needs a surface is refused and changes nothing, and any other operation ends, is the same on any
platform and with any clock, and leaves the window alone unless it works on the frame. -/
theorem headless_secluded (h : Course d.recorded config ⟨world, []⟩ turns s)
    (hout : ∀ turn ∈ turns, turn.Spares Recorded.calls) (hhidden : config.showWindow = false) :
    OfKinds [.drawing, .reading, .preparing] s.world.calls ∧
      (∀ p, Course { d.recorded with platform := p } config ⟨world, []⟩ turns s) ∧
      s = { fresh d.recorded config ⟨world, []⟩ with world := s.world, drawn := s.drawn } ∧
      (s.config = config ∧ s.events = {} ∧ (∀ b, s.input.isPressed b = false) ∧
        s.isRunning d.recorded = true) ∧
      (∀ (op : Operation (Recorded W α Raw Frame)) o, op.surface? = some o →
        exec (op.perform d.recorded) s = (.error (.failed (.noVisibleSurface o)), s)) ∧
      ∀ op : Operation (Recorded W α Raw Frame), op.isOutside = false →
        (∀ p c, exec (op.perform { d.recorded with platform := p, clock := c }) s =
          exec (op.perform d.recorded) s) ∧
        ∃ (a : Except WindowError (Answer α β)) (s' : RecordedWindow W α β Raw Frame)
          (calls : List (Call α Raw Frame)),
          exec (op.perform d.recorded) s = (a.mapError .failed, s') ∧
            Adds d s.world calls s'.world ∧ OfKinds [.drawing, .reading, .preparing] calls ∧
            (op.isFrameWork = false → s' = s) := by
  obtain ⟨hstill, hkinds⟩ := h.headless hout hhidden
  have hself : s = { fresh d.recorded config ⟨world, []⟩ with
      world := s.world, drawn := s.drawn } := congrFun (congrFun hstill s.world) s.drawn
  have hshow := h.hidden hhidden
  refine ⟨hkinds, h.elsewhere hhidden, hself, ⟨?_, ?_, fun b => ?_, ?_⟩,
    fun op o ho => exec_perform_refused hshow ho, fun op hop => ⟨fun p c => ?_, ?_⟩⟩
  · rw [hself]
    rfl
  · rw [hself]
    rfl
  · rw [hself]
    rfl
  · rw [isRunning, hshow]
    rfl
  · exact exec_perform_elsewhere hshow p c op
  · obtain ⟨a, s', calls, hexec, -, hadds, hcalls, hsame⟩ :=
      exec_perform_headless (d := d) hshow hop
    exact ⟨a, s', calls, hexec, hadds, hcalls, hsame⟩

end Recorded

/-- A stage where a key goes down, and whose renderer fails to draw the first frame. -/
def unseenStage : Script.Stage Rat Unit where
  platform := { polls := [[⟨some (.key (.key .keyA) .press), none⟩]], size := ⟨2, 1⟩ }
  renderer := { size := ⟨2, 1⟩, failures := [(.draw, .surface "lost")] }
  gui := {}
  clock := {}

/-- A window without a surface on that stage, after a read that fails and one that does not. -/
def unseenWindow : RecordedWindow (Script.Stage Rat Unit) Rat Rat Unit Nat :=
  (exec (Operation.dumpImage.perform Script.devices.recorded)
    (exec (Operation.dumpImage.perform Script.devices.recorded)
      (openWith Script.devices.recorded hiddenConfig ⟨unseenStage, []⟩).2).2).2

theorem headless_secluded_unseen :
    ∃ turns, Course Script.devices.recorded hiddenConfig ⟨unseenStage, []⟩ turns unseenWindow ∧
      turns.map (·.answer.isOk) = [true, false, true] ∧
      OfKinds [.drawing, .reading, .preparing] unseenWindow.world.calls ∧
      unseenWindow.input.isPressed (.key .keyA) = false ∧
      exec ((Operation.pollEvents .any).perform Script.devices.recorded) unseenWindow =
        (.error (.failed (.noVisibleSurface .pollEvents)), unseenWindow) := by
  obtain ⟨ds, h⟩ := exists_opened
    (show openWith Script.devices.recorded hiddenConfig ⟨unseenStage, []⟩ = (.ok (), _) from rfl)
  obtain ⟨batch₁, ds₁, h₁⟩ := h.exists_next .dumpImage (.error (.backend (.surface "lost"))) rfl
  obtain ⟨batch₂, ds₂, h₂⟩ := h₁.exists_next .dumpImage (.ok (.picture ⟨#[0, 1], 2, 1⟩))
    (show _ = (_, unseenWindow) from rfl)
  obtain ⟨hkinds, -, -, ⟨-, -, hpressed, -⟩, hrefused, -⟩ := headless_secluded h₂
    (spares_next (spares_next spares_opened .dumpImage trivial) .dumpImage trivial) rfl
  exact ⟨_, h₂, rfl, hkinds, hpressed _, hrefused (.pollEvents .any) _ rfl⟩

end Window

end WindowHost
