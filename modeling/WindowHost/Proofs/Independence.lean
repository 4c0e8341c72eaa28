import Mathlib.Data.List.Forall2
import WindowHost.Devices.Parts
import WindowHost.Proofs.Mirror
import WindowHost.Proofs.SideBySide
import WindowHost.Script

/-!
# Input does not depend on the widgets or on time

Two windows that are opened and used alike give the same input, fail with the same errors and call
their renderers alike, even if their widgets want different things, their clocks tell different
times and their displays have different cursor shapes. `session` is what is seen of a run.
-/

namespace WindowHost

variable {W W₁ W₂ α β Raw Frame F₁ F₂ γ₁ γ₂ : Type}

/-! ## What is seen of a run -/

/-- A call to a renderer with its outcome, without the contents of frames. -/
inductive RendererCall where
  | draw (outcome : Except BackendError Unit)
  | present (outcome : Except BackendError Unit)
  | resize (size : Extent) (outcome : Except BackendError Unit)
  | dump (outcome : Except BackendError Unit)
  | writeImage (path : String) (outcome : Except BackendError Unit)
  | copyDepth (target : Array Float32) (outcome : Except BackendError Unit)
  | prepare

/-- What is seen of a call by someone who watches the renderer. -/
def Call.renderer? : Call α Raw Frame → Option RendererCall
  | .draw _ outcome => some (.draw outcome)
  | .present outcome => some (.present outcome)
  | .resize size outcome => some (.resize size outcome)
  | .dump outcome => some (.dump (outcome.map fun _ => ()))
  | .writeImage path outcome => some (.writeImage path outcome)
  | .copyDepth target outcome => some (.copyDepth target (outcome.map fun _ => ()))
  | .prepareRenderer => some .prepare
  | _ => none

/-- What is seen of a step: whether it succeeds, what it answers unless that is private, and all
calls to the renderer so far. -/
structure Sight (α β : Type) where
  outcome : Except Halt (Option (Answer α β))
  calls : List RendererCall

namespace Window

/-- The operation waits for a size that cannot come. -/
def waits (res : Except Halt γ₁) : Bool :=
  match res with
  | .error .stalled => true
  | _ => false

variable [Scalar α] [Narrowing α β] [Scalar β]

/-- What is seen while a window performs operations one after the other. One that waits forever is
the last. -/
def watch (d : Devices W α Raw Frame) :
    List (Operation W) → RecordedWindow W α β Raw Frame → List (Sight α β)
  | [], _ => []
  | op :: ops, s =>
    let (res, s') := exec (op.recorded.perform d.recorded) s
    let outcome := res.map fun a => if op.isPrivate then none else some a
    ⟨outcome, s'.world.calls.filterMap Call.renderer?⟩ :: if waits res then [] else watch d ops s'

/-- What is seen while a window is opened and then used. An opening that fails is all of it. -/
def session (d : Devices W α Raw Frame) (config : Config) (world : W) (ops : List (Operation W)) :
    List (Sight α β) :=
  let (res, s) : _ × RecordedWindow W α β Raw Frame := openWith d.recorded config ⟨world, []⟩
  ⟨res.map fun _ => some .done, s.world.calls.filterMap Call.renderer?⟩ ::
    if res.isOk then watch d ops s else []

end Window

/-! ## Recorded devices -/

/-- Two recorded worlds are related, and the renderers got the same calls. -/
structure Synced (R : W₁ → W₂ → Prop) (w₁ : Recorded W₁ α Raw F₁) (w₂ : Recorded W₂ α Raw F₂) :
    Prop where
  world : R w₁.world w₂.world
  calls : w₁.calls.filterMap Call.renderer? = w₂.calls.filterMap Call.renderer?

theorem Call.renderer?_of_isAside {call : Call α Raw Frame} (h : call.isAside = true) :
    call.renderer? = none := by
  cases call <;> first | rfl | cases h

theorem filterMap_concat_of_isAside (calls : List (Call α Raw Frame)) {call : Call α Raw Frame}
    (h : call.isAside = true) :
    (calls ++ [call]).filterMap Call.renderer? = calls.filterMap Call.renderer? := by
  rw [List.filterMap_append, List.filterMap_cons, Call.renderer?_of_isAside h, List.filterMap_nil,
    List.append_nil]

/-- A call to recorded devices is a call to the devices, and joins the record. -/
theorem Devices.Does.of_recorded {d : Devices W α Raw Frame} {w w' : Recorded W α Raw Frame}
    {call : Call α Raw Frame} (h : d.recorded.Does w call w') :
    d.Does w.world call w'.world ∧ w'.calls = w.calls ++ [call] := by
  cases h <;> exact ⟨by constructor, rfl⟩

section Recorded

open Recorded

variable {R : W₁ → W₂ → Prop} {w₁ : Recorded W₁ α Raw F₁} {w₂ : Recorded W₂ α Raw F₂}
  {d₁ : Devices W₁ α Raw F₁} {d₂ : Devices W₂ α Raw F₂}

theorem Synced.note (h : Synced R w₁ w₂) {call₁ : Call α Raw F₁} {call₂ : Call α Raw F₂}
    (hcall : call₁.renderer? = call₂.renderer?) {w₁' : W₁} {w₂' : W₂} (hw : R w₁' w₂') :
    Synced R ⟨w₁', w₁.calls ++ [call₁]⟩ ⟨w₂', w₂.calls ++ [call₂]⟩ := by
  refine ⟨hw, ?_⟩
  simp only [List.filterMap_append, h.calls, List.filterMap_cons, hcall, List.filterMap_nil]

theorem Synced.noteAnswer (h : Synced R w₁ w₂) {Q : γ₁ → γ₂ → Prop} {f₁ : W₁ → γ₁ × W₁}
    {f₂ : W₂ → γ₂ × W₂} (hf : InStep Q R (f₁ w₁.world) (f₂ w₂.world)) {call₁ : γ₁ → Call α Raw F₁}
    {call₂ : γ₂ → Call α Raw F₂}
    (hcall : ∀ x y, Q x y → (call₁ x).renderer? = (call₂ y).renderer?) :
    InStep Q (Synced R) (noteAnswer call₁ f₁ w₁) (noteAnswer call₂ f₂ w₂) :=
  ⟨hf.1, h.note (hcall _ _ hf.1) hf.2⟩

/-- Devices that are alike stay so when their calls are recorded. -/
theorem Devices.Alike.recorded (hd : d₁.Alike R d₂) :
    d₁.recorded.Alike (Synced R) d₂.recorded where
  platform :=
    { poll := fun _ _ hw => hw.noteAnswer (hd.platform.poll hw.world) fun _ _ _ => rfl
      wait := fun _ _ hw => hw.noteAnswer (hd.platform.wait hw.world) fun _ _ _ => rfl
      framebufferSize := fun _ _ hw =>
        hw.noteAnswer (hd.platform.framebufferSize hw.world) fun _ _ _ => rfl
      closeRequested := fun _ _ hw => hd.platform.closeRequested hw.world
      setCloseRequested := fun value _ _ hw =>
        hw.note rfl (hd.platform.setCloseRequested value hw.world)
      patience := fun _ _ hw => hd.platform.patience hw.world }
  renderer :=
    { draw := fun f₁ f₂ _ _ hw => hw.noteAnswer (hd.renderer.draw f₁ f₂ hw.world)
        fun _ _ h => congrArg (some <| RendererCall.draw ·) h
      present := fun _ _ hw => hw.noteAnswer (hd.renderer.present hw.world)
        fun _ _ h => congrArg (some <| RendererCall.present ·) h
      resize := fun size _ _ hw => hw.noteAnswer (hd.renderer.resize size hw.world)
        fun _ _ h => congrArg (some <| RendererCall.resize size ·) h
      size := fun _ _ hw => hd.renderer.size hw.world
      dump := fun _ _ hw => hw.noteAnswer (hd.renderer.dump hw.world)
        fun _ _ h => congrArg (some <| RendererCall.dump ·) (h.map_eq fun _ _ _ => rfl)
      writeImage := fun path _ _ hw => hw.noteAnswer (hd.renderer.writeImage path hw.world)
        fun _ _ h => congrArg (some <| RendererCall.writeImage path ·) h
      copyDepth := fun target _ _ hw => hw.noteAnswer (hd.renderer.copyDepth target hw.world)
        fun _ _ h => congrArg (some <| RendererCall.copyDepth target ·) (h.map_eq fun _ _ _ => rfl)
      prepare := fun _ _ hw => hw.note rfl (hd.renderer.prepare hw.world) }
  left := fun w₁ w₁' w₂ call hdoes haside hw => by
    obtain ⟨hdoes, hcalls⟩ := hdoes.of_recorded
    refine ⟨hd.left hdoes haside hw.world, ?_⟩
    rw [hcalls, filterMap_concat_of_isAside _ haside, hw.calls]
  right := fun w₁ w₂ w₂' call hdoes haside hw => by
    obtain ⟨hdoes, hcalls⟩ := hdoes.of_recorded
    refine ⟨hd.right hdoes haside hw.world, ?_⟩
    rw [hcalls, filterMap_concat_of_isAside _ haside, hw.calls]

theorem Operation.Alike.recorded {op₁ : Operation W₁} {op₂ : Operation W₂}
    (hop : Operation.Alike R op₁ op₂) :
    Operation.Alike (Synced R : Recorded W₁ α Raw F₁ → Recorded W₂ α Raw F₂ → Prop) op₁.recorded
      op₂.recorded := by
  cases hop with
  | same op =>
    have hported {W Frame : Type} :
        (op.ported : Operation W).recorded = (op.ported : Operation (Recorded W α Raw Frame)) := by
      cases op <;> rfl
    rw [hported, hported]
    exact .same op
  | outside hf => exact .outside fun _ _ hw => ⟨hf hw.world, hw.calls⟩

theorem Operation.isPrivate_recorded (op : Operation W) :
    (op.recorded : Operation (Recorded W α Raw Frame)).isPrivate = op.isPrivate := by
  cases op <;> rfl

end Recorded

/-! ## The same sights -/

namespace Window

variable [Scalar α] [Narrowing α β] [Scalar β] {R : W₁ → W₂ → Prop} {d₁ : Devices W₁ α Raw F₁}
  {d₂ : Devices W₂ α Raw F₂} {ops₁ : List (Operation W₁)} {ops₂ : List (Operation W₂)}

theorem watch_eq (hd : d₁.Alike R d₂) (hops : List.Forall₂ (Operation.Alike R) ops₁ ops₂)
    {s₁ : RecordedWindow W₁ α β Raw F₁} {s₂ : RecordedWindow W₂ α β Raw F₂}
    (hs : Twins (Synced R) s₁ s₂) : watch d₁ ops₁ s₁ = watch d₂ ops₂ s₂ := by
  induction hops generalizing s₁ s₂ with
  | nil => rfl
  | @cons op₁ op₂ ops₁ ops₂ hop _ ih =>
    obtain ⟨hres, hs'⟩ := hop.recorded.pairs_perform (β := β) hd.recorded s₁ s₂ hs
    rw [Operation.isPrivate_recorded] at hres
    rcases hexec₁ : exec (op₁.recorded.perform d₁.recorded) s₁ with ⟨res₁, s₁'⟩
    rcases hexec₂ : exec (op₂.recorded.perform d₂.recorded) s₂ with ⟨res₂, s₂'⟩
    rw [hexec₁, hexec₂] at hres hs'
    simp only [watch, hexec₁, hexec₂, hs'.world.calls, ih hs', ← hop.isPrivate_eq]
    cases hres with
    | error e => rfl
    | @ok a₁ a₂ hanswer =>
      have hseen : (if op₁.isPrivate then none else some a₁) =
          if op₁.isPrivate then none else some a₂ := by
        split
        · rfl
        · rename_i hpublic
          rw [hanswer (Bool.eq_false_iff.2 hpublic)]
      simp only [Except.map, hseen, waits]
      rfl

theorem session_eq (hd : d₁.Alike R d₂) (config : Config) {w₁ : W₁} {w₂ : W₂} (hw : R w₁ w₂)
    (hops : List.Forall₂ (Operation.Alike R) ops₁ ops₂) :
    (session d₁ config w₁ ops₁ : List (Sight α β)) = session d₂ config w₂ ops₂ := by
  have hstart : Synced R (⟨w₁, []⟩ : Recorded W₁ α Raw F₁) (⟨w₂, []⟩ : Recorded W₂ α Raw F₂) :=
    ⟨hw, rfl⟩
  obtain ⟨hres, hs⟩ := openWith_twins (β := β) hd.recorded config hstart
  simp only [session, hres, hs.world.calls, watch_eq hd hops hs]

end Window

/-! ## Devices that share nothing -/

/-- A write of the title or of the native cursor. -/
inductive Platform.Writes (p : Platform W α Raw) (w : W) : W → Prop where
  | title (title) : Writes p w (p.setTitle title w)
  | visible (value) : Writes p w (p.cursor.setVisible value w)
  | shape (shape) : Writes p w (p.cursor.setShape shape w).2

/-- Two platforms play the same script, which neither the title nor the native cursor changes. Each
may have cursor shapes that the other has not. -/
structure Platform.SameScript (R : W₁ → W₂ → Prop) (p₁ : Platform W₁ α Raw)
    (p₂ : Platform W₂ α Raw) : Prop extends p₁.Alike R p₂ where
  left : ∀ ⦃w₁ w₁' w₂⦄, p₁.Writes w₁ w₁' → R w₁ w₂ → R w₁' w₂
  right : ∀ ⦃w₁ w₂ w₂'⦄, p₂.Writes w₂ w₂' → R w₁ w₂ → R w₁ w₂'

section Parts

variable {P₁ P₂ R₁ R₂ G₁ G₂ C₁ C₂ : Type} {P : P₁ → P₂ → Prop} {R : R₁ → R₂ → Prop}
  {p₁ : Platform P₁ α Raw} {p₂ : Platform P₂ α Raw} {r₁ : Renderer R₁ F₁} {r₂ : Renderer R₂ F₂}

/-- The worlds of the platforms and those of the renderers are related, and nothing is said of the
widgets and the clocks. -/
def Parts.Related (P : P₁ → P₂ → Prop) (R : R₁ → R₂ → Prop) (w₁ : Parts P₁ R₁ G₁ C₁)
    (w₂ : Parts P₂ R₂ G₂ C₂) : Prop :=
  P w₁.platform w₂.platform ∧ R w₁.renderer w₂.renderer

theorem alike_ofParts (hp : p₁.SameScript P p₂) (hr : r₁.Alike R r₂) (g₁ : Gui G₁ Raw F₁)
    (g₂ : Gui G₂ Raw F₂) (c₁ : Pacing.Clock C₁) (c₂ : Pacing.Clock C₂) :
    (Devices.ofParts p₁ r₁ g₁ c₁).Alike (Parts.Related P R) (.ofParts p₂ r₂ g₂ c₂) where
  platform :=
    { poll := fun _ _ hw => ⟨(hp.poll hw.1).1, (hp.poll hw.1).2, hw.2⟩
      wait := fun _ _ hw => ⟨(hp.wait hw.1).1, (hp.wait hw.1).2, hw.2⟩
      framebufferSize := fun _ _ hw =>
        ⟨(hp.framebufferSize hw.1).1, (hp.framebufferSize hw.1).2, hw.2⟩
      closeRequested := fun _ _ hw => hp.closeRequested hw.1
      setCloseRequested := fun value _ _ hw => ⟨hp.setCloseRequested value hw.1, hw.2⟩
      patience := fun _ _ hw => hp.patience hw.1 }
  renderer :=
    { draw := fun f₁ f₂ _ _ hw => ⟨(hr.draw f₁ f₂ hw.2).1, hw.1, (hr.draw f₁ f₂ hw.2).2⟩
      present := fun _ _ hw => ⟨(hr.present hw.2).1, hw.1, (hr.present hw.2).2⟩
      resize := fun size _ _ hw => ⟨(hr.resize size hw.2).1, hw.1, (hr.resize size hw.2).2⟩
      size := fun _ _ hw => hr.size hw.2
      dump := fun _ _ hw => ⟨(hr.dump hw.2).1, hw.1, (hr.dump hw.2).2⟩
      writeImage := fun path _ _ hw =>
        ⟨(hr.writeImage path hw.2).1, hw.1, (hr.writeImage path hw.2).2⟩
      copyDepth := fun target _ _ hw =>
        ⟨(hr.copyDepth target hw.2).1, hw.1, (hr.copyDepth target hw.2).2⟩
      prepare := fun _ _ hw => ⟨hw.1, hr.prepare hw.2⟩ }
  left := fun w₁ w₁' w₂ call hdoes haside hw => by
    cases hdoes with
    | setTitle title => exact ⟨hp.left (.title title) hw.1, hw.2⟩
    | setCursorVisible value => exact ⟨hp.left (.visible value) hw.1, hw.2⟩
    | setCursorShape shape => exact ⟨hp.left (.shape shape) hw.1, hw.2⟩
    | rawEvent | endFrame | suppressCursor | reclaimCursor | prepareGui | sleepUntil => exact hw
    | _ => cases haside
  right := fun w₁ w₂ w₂' call hdoes haside hw => by
    cases hdoes with
    | setTitle title => exact ⟨hp.right (.title title) hw.1, hw.2⟩
    | setCursorVisible value => exact ⟨hp.right (.visible value) hw.1, hw.2⟩
    | setCursorShape shape => exact ⟨hp.right (.shape shape) hw.1, hw.2⟩
    | rawEvent | endFrame | suppressCursor | reclaimCursor | prepareGui | sleepUntil => exact hw
    | _ => cases haside

/-! ## Input is independent -/

variable [Scalar α] [Narrowing α β] [Scalar β]

/-- Two windows with the same configuration whose platforms play the same script and whose renderers
succeed and fail alike are seen to do the same at every step, if they are used alike: they open
alike, answer alike, fail with the same errors and call their renderers alike. Their widgets and
their clocks may be any. -/
theorem session_independent (hp : p₁.SameScript P p₂) (hr : r₁.Alike R r₂) (g₁ : Gui G₁ Raw F₁)
    (g₂ : Gui G₂ Raw F₂) (c₁ : Pacing.Clock C₁) (c₂ : Pacing.Clock C₂) (config : Config)
    {w₁ : Parts P₁ R₁ G₁ C₁} {w₂ : Parts P₂ R₂ G₂ C₂} (hw : Parts.Related P R w₁ w₂)
    {ops₁ : List (Operation (Parts P₁ R₁ G₁ C₁))} {ops₂ : List (Operation (Parts P₂ R₂ G₂ C₂))}
    (hops : List.Forall₂ (Operation.Alike (Parts.Related P R)) ops₁ ops₂) :
    (Window.session (.ofParts p₁ r₁ g₁ c₁) config w₁ ops₁ : List (Sight α β)) =
      Window.session (.ofParts p₂ r₂ g₂ c₂) config w₂ ops₂ :=
  Window.session_eq (alike_ofParts hp hr g₁ g₂ c₁ c₂) config hw hops

end Parts

/-- A key is pressed while the widgets want the mouse and the keyboard. -/
def captiveStage : Script.Stage Rat Unit where
  platform :=
    { polls := [[⟨some (.key (.key .keyA) .press), some ()⟩]]
      size := ⟨2, 1⟩ }
  renderer := { size := ⟨2, 1⟩ }
  gui := { desired := .special, wantsMouse := true, wantsKeyboard := true }
  clock := {}

/-- The same key is pressed while the widgets want nothing, later and on a display without hands. -/
def freeStage : Script.Stage Rat Unit where
  platform := { captiveStage.platform with unsupported := [.hand] }
  renderer := { size := ⟨2, 1⟩ }
  gui := {}
  clock := { now := 1000, oversleep := 7 }

theorem sameScript_screen :
    (Script.Screen.platform : Platform (Script.Screen α Raw) α Raw).SameScript
      (fun a b => ∃ unsupported, b = { a with unsupported }) Script.Screen.platform where
  poll := fun _ _ ⟨unsupported, h⟩ => h ▸ ⟨rfl, unsupported, rfl⟩
  wait := fun _ _ ⟨unsupported, h⟩ => h ▸ ⟨rfl, unsupported, rfl⟩
  framebufferSize := fun _ _ ⟨unsupported, h⟩ => h ▸ ⟨rfl, unsupported, rfl⟩
  closeRequested := fun _ _ ⟨_, h⟩ => h ▸ rfl
  setCloseRequested := fun _ _ _ ⟨unsupported, h⟩ => h ▸ ⟨unsupported, rfl⟩
  patience := fun _ _ ⟨_, h⟩ => h ▸ rfl
  left := fun _ _ _ hwrite hw => by cases hwrite <;> exact hw
  right := fun _ _ _ hwrite hw => by cases hwrite <;> exact hw

theorem alike_easel : Script.Easel.renderer.Alike Eq Script.Easel.renderer where
  draw _ _ _ _ h := h ▸ ⟨rfl, rfl⟩
  present _ _ h := h ▸ ⟨rfl, rfl⟩
  resize _ _ _ h := h ▸ ⟨rfl, rfl⟩
  size _ _ h := h ▸ rfl
  dump _ _ h := h ▸ ⟨.refl _, rfl⟩
  writeImage _ _ _ h := h ▸ ⟨rfl, rfl⟩
  copyDepth _ _ _ h := h ▸ ⟨.refl _, rfl⟩
  prepare _ _ h := h ▸ rfl

/-- The host program asks for a hand, shows a frame and asks what was pressed. -/
def clicked : List (Operation W) :=
  [.setCursorRequest ⟨.shape .hand, false⟩, .showFrame, .isPressed "A", .pollOneEvent .any,
    .currentEvent]

theorem alike_clicked (R : W₁ → W₂ → Prop) : List.Forall₂ (Operation.Alike R) clicked clicked :=
  .cons (.same (.setCursorRequest ⟨.shape .hand, false⟩)) <| .cons (.same .showFrame) <|
    .cons (.same (.isPressed "A")) <| .cons (.same (.pollOneEvent .any)) <|
      .cons (.same .currentEvent) .nil

theorem session_independent_captive :
    (Window.session Script.devices {} captiveStage clicked : List (Sight Rat Rat)) =
      Window.session Script.devices {} freeStage clicked := by
  have hw : Parts.Related (fun a b => ∃ unsupported, b = { a with unsupported }) Eq captiveStage
      freeStage := ⟨⟨[.hand], rfl⟩, rfl⟩
  exact session_independent sameScript_screen alike_easel Script.Wishes.gui Script.Wishes.gui
    Pacing.Manual.clock Pacing.Manual.clock {} hw (alike_clicked _)

end WindowHost
