import WindowHost.Proofs.Record

/-!
# Two windows side by side

Two sets of devices are `Alike` when their platforms bring the same events and their renderers
succeed and fail alike, whatever their widgets, their clocks and their native cursors do. `Twins`
are windows over such devices that look the same but for who drives the cursor and for what depends
on time, and `Pairs` says of two operations that they have outcomes that match and lead from twins
to twins. What only one of two windows does is `Quiet`.
-/

namespace WindowHost

variable {W W₁ W₂ α β Raw Frame F₁ F₂ γ₁ γ₂ δ₁ δ₂ : Type}

/-! ## Devices that are alike -/

/-- Two outcomes are the same error, or two successes with answers that match. -/
inductive Matched {ε : Type} (Q : γ₁ → γ₂ → Prop) : Except ε γ₁ → Except ε γ₂ → Prop where
  | ok {x y} : Q x y → Matched Q (.ok x) (.ok y)
  | error (e) : Matched Q (.error e) (.error e)

/-- Two outcomes are the same but for the answers. -/
abbrev SameOutcome {ε : Type} (x : Except ε γ₁) (y : Except ε γ₂) : Prop :=
  Matched (fun _ _ => True) x y

/-- Two steps give answers that match, and leave worlds that are related. -/
abbrev InStep (Q : γ₁ → γ₂ → Prop) (R : W₁ → W₂ → Prop) (x : γ₁ × W₁) (y : γ₂ × W₂) : Prop :=
  Q x.1 y.1 ∧ R x.2 y.2

/-- Two platforms bring the same events and sizes as long as their worlds are related. -/
structure Platform.Alike (R : W₁ → W₂ → Prop) (p₁ : Platform W₁ α Raw) (p₂ : Platform W₂ α Raw) :
    Prop where
  poll : ∀ ⦃w₁ w₂⦄, R w₁ w₂ → InStep Eq R (p₁.poll w₁) (p₂.poll w₂)
  wait : ∀ ⦃w₁ w₂⦄, R w₁ w₂ → InStep Eq R (p₁.wait w₁) (p₂.wait w₂)
  framebufferSize : ∀ ⦃w₁ w₂⦄, R w₁ w₂ →
    InStep Eq R (p₁.framebufferSize w₁) (p₂.framebufferSize w₂)
  closeRequested : ∀ ⦃w₁ w₂⦄, R w₁ w₂ → p₁.closeRequested w₁ = p₂.closeRequested w₂
  setCloseRequested : ∀ value ⦃w₁ w₂⦄, R w₁ w₂ →
    R (p₁.setCloseRequested value w₁) (p₂.setCloseRequested value w₂)
  patience : ∀ ⦃w₁ w₂⦄, R w₁ w₂ → p₁.patience w₁ = p₂.patience w₂

/-- Two renderers succeed and fail alike as long as their worlds are related, whatever the frames
hold that they are given. -/
structure Renderer.Alike (R : W₁ → W₂ → Prop) (r₁ : Renderer W₁ F₁) (r₂ : Renderer W₂ F₂) :
    Prop where
  draw : ∀ f₁ f₂ ⦃w₁ w₂⦄, R w₁ w₂ → InStep Eq R (r₁.draw f₁ w₁) (r₂.draw f₂ w₂)
  present : ∀ ⦃w₁ w₂⦄, R w₁ w₂ → InStep Eq R (r₁.present w₁) (r₂.present w₂)
  resize : ∀ size ⦃w₁ w₂⦄, R w₁ w₂ → InStep Eq R (r₁.resize size w₁) (r₂.resize size w₂)
  size : ∀ ⦃w₁ w₂⦄, R w₁ w₂ → r₁.size w₁ = r₂.size w₂
  dump : ∀ ⦃w₁ w₂⦄, R w₁ w₂ → InStep SameOutcome R (r₁.dump w₁) (r₂.dump w₂)
  writeImage : ∀ path ⦃w₁ w₂⦄, R w₁ w₂ →
    InStep Eq R (r₁.writeImage path w₁) (r₂.writeImage path w₂)
  copyDepth : ∀ target ⦃w₁ w₂⦄, R w₁ w₂ →
    InStep SameOutcome R (r₁.copyDepth target w₁) (r₂.copyDepth target w₂)
  prepare : ∀ ⦃w₁ w₂⦄, R w₁ w₂ → R (r₁.prepare w₁) (r₂.prepare w₂)

/-- A call to the widgets or to the clock, or one that writes the title or the native cursor. -/
def Call.isAside : Call α Raw Frame → Bool
  | .rawEvent _ | .endFrame _ | .suppressCursor _ | .reclaimCursor | .prepareGui | .sleepUntil _
  | .setTitle _ | .setCursorVisible _ | .setCursorShape .. => true
  | _ => false

/-- Two sets of devices with platforms and renderers that are alike, where neither is disturbed by
the widgets, the clock, the title or the native cursor. -/
structure Devices.Alike (R : W₁ → W₂ → Prop) (d₁ : Devices W₁ α Raw F₁)
    (d₂ : Devices W₂ α Raw F₂) : Prop where
  platform : d₁.platform.Alike R d₂.platform
  renderer : d₁.renderer.Alike R d₂.renderer
  left : ∀ ⦃w₁ w₁' w₂ call⦄, d₁.Does w₁ call w₁' → call.isAside = true → R w₁ w₂ → R w₁' w₂
  right : ∀ ⦃w₁ w₂ w₂' call⦄, d₂.Does w₂ call w₂' → call.isAside = true → R w₁ w₂ → R w₁ w₂'

theorem Matched.eq {ε : Type} {x y : Except ε γ₁} (h : Matched Eq x y) : x = y := by
  cases h with
  | ok h => rw [h]
  | error => rfl

theorem Matched.of_eq {ε : Type} {x y : Except ε γ₁} (h : x = y) : Matched Eq x y := by
  subst h
  cases x with
  | error e => exact .error e
  | ok a => exact .ok rfl

theorem Matched.refl {ε : Type} (x : Except ε γ₁) : Matched (fun _ _ => True) x x := by
  cases x with
  | error e => exact .error e
  | ok a => exact .ok trivial

theorem Matched.map_eq {ε : Type} {Q : γ₁ → γ₂ → Prop} {x : Except ε γ₁} {y : Except ε γ₂}
    (h : Matched Q x y) {f : γ₁ → δ₁} {g : γ₂ → δ₁} (hfg : ∀ a b, Q a b → f a = g b) :
    x.map f = y.map g := by
  cases h with
  | ok h => exact congrArg Except.ok (hfg _ _ h)
  | error => rfl

/-- Whether an operation answers with the contents of a frame, with what the widgets want, or with
who drives the cursor. -/
def Operation.isPrivate : Operation W → Bool
  | .dumpImage | .copyDepth _ | .appliedCursor | .guiWantsMouse | .guiWantsKeyboard => true
  | _ => false

/-- The same operation over other devices, where nothing happens to them from outside. -/
def Operation.ported : Operation Unit → Operation W
  | .showFrame => .showFrame
  | .drawFrame => .drawFrame
  | .dumpImage => .dumpImage
  | .writeImage path => .writeImage path
  | .copyDepth target => .copyDepth target
  | .requestStop stop => .requestStop stop
  | .isRunning => .isRunning
  | .isPressed name => .isPressed name
  | .isAnyPressed names => .isAnyPressed names
  | .cursorPosition => .cursorPosition
  | .takeScrollDelta => .takeScrollDelta
  | .pollEvents filter => .pollEvents filter
  | .pollOneEvent filter => .pollOneEvent filter
  | .currentEvent => .currentEvent
  | .setCurrentEvent e => .setCurrentEvent e
  | .setCursor index force => .setCursor index force
  | .setCursorRequest request => .setCursorRequest request
  | .appliedCursor => .appliedCursor
  | .guiWantsMouse => .guiWantsMouse
  | .guiWantsKeyboard => .guiWantsKeyboard
  | .shape => .shape
  | .outside _ => .outside id

/-- Two operations that a host program performs alike. What happens to the devices from outside may
differ as long as it keeps their worlds related. -/
inductive Operation.Alike (R : W₁ → W₂ → Prop) : Operation W₁ → Operation W₂ → Prop where
  | same (op : Operation Unit) : Alike R op.ported op.ported
  | outside {f₁ f₂} : (∀ ⦃w₁ w₂⦄, R w₁ w₂ → R (f₁ w₁) (f₂ w₂)) →
      Alike R (.outside f₁) (.outside f₂)

/-! ## Two windows side by side -/

/-- Two windows look the same, but for who drives the cursor and for what depends on time. -/
structure Twins (R : W₁ → W₂ → Prop) (s₁ : Window W₁ α β) (s₂ : Window W₂ α β) : Prop where
  config : s₁.config = s₂.config
  world : R s₁.world s₂.world
  input : s₁.input = s₂.input
  events : s₁.events = s₂.events
  drawn : s₁.drawn = s₂.drawn

namespace Twins

variable {R : W₁ → W₂ → Prop} {s₁ : Window W₁ α β} {s₂ : Window W₂ α β}

theorem shown_iff (hs : Twins R s₁ s₂) :
    s₁.config.showWindow = true ↔ s₂.config.showWindow = true := by
  rw [hs.config]

theorem inWorld (hs : Twins R s₁ s₂) {w₁ : W₁} {w₂ : W₂} (hw : R w₁ w₂) :
    Twins R (s₁.inWorld w₁) (s₂.inWorld w₂) :=
  ⟨hs.config, hw, hs.input, hs.events, hs.drawn⟩

theorem receive [Scalar α] [Narrowing α β] (hs : Twins R s₁ s₂) (occurrence : Occurrence α) :
    Twins R (s₁.receive occurrence) (s₂.receive occurrence) := by
  obtain ⟨config, w₁, input, events, _, _, _, drawn⟩ := s₁
  obtain ⟨_, w₂, _, _, _, _, _, _⟩ := s₂
  obtain ⟨rfl, hworld, rfl, rfl, rfl⟩ := hs
  cases occurrence <;> exact ⟨rfl, hworld, rfl, rfl, rfl⟩

end Twins

namespace Window

variable {R : W₁ → W₂ → Prop} {Q : γ₁ → γ₂ → Prop} {P : δ₁ → δ₂ → Prop}

/-- From twins, two operations have outcomes that match and lead to twins. -/
def Pairs (R : W₁ → W₂ → Prop) (Q : γ₁ → γ₂ → Prop) (m₁ : WindowM W₁ α β γ₁)
    (m₂ : WindowM W₂ α β γ₂) : Prop :=
  ∀ s₁ s₂, Twins R s₁ s₂ → InStep (Matched Q) (Twins R) (exec m₁ s₁) (exec m₂ s₂)

/-! ### Rules -/

section Rules

variable {m₁ : WindowM W₁ α β γ₁} {m₂ : WindowM W₂ α β γ₂}

theorem pairs_pure {x : γ₁} {y : γ₂} (h : Q x y) :
    Pairs R Q (pure x : WindowM W₁ α β γ₁) (pure y : WindowM W₂ α β γ₂) :=
  fun _ _ hs => ⟨.ok h, hs⟩

theorem pairs_throw (h : Halt) :
    Pairs R Q (throw h : WindowM W₁ α β γ₁) (throw h : WindowM W₂ α β γ₂) :=
  fun _ _ hs => ⟨.error h, hs⟩

theorem Pairs.bind {n₁ : γ₁ → WindowM W₁ α β δ₁} {n₂ : γ₂ → WindowM W₂ α β δ₂}
    (hm : Pairs R Q m₁ m₂) (hn : ∀ x y, Q x y → Pairs R P (n₁ x) (n₂ y)) :
    Pairs R P (m₁ >>= n₁) (m₂ >>= n₂) := by
  intro s₁ s₂ hs
  obtain ⟨hres, hs'⟩ := hm s₁ s₂ hs
  rw [exec_bind, exec_bind]
  rcases hexec₁ : exec m₁ s₁ with ⟨res₁, s₁'⟩
  rcases hexec₂ : exec m₂ s₂ with ⟨res₂, s₂'⟩
  rw [hexec₁, hexec₂] at hres hs'
  cases hres with
  | ok hxy => exact hn _ _ hxy _ _ hs'
  | error e => exact ⟨.error e, hs'⟩

/-- A sequence whose first part answers the same. -/
theorem Pairs.seq {m₂ : WindowM W₂ α β γ₁} {n₁ : γ₁ → WindowM W₁ α β δ₁}
    {n₂ : γ₁ → WindowM W₂ α β δ₂} (hm : Pairs R Eq m₁ m₂) (hn : ∀ x, Pairs R P (n₁ x) (n₂ x)) :
    Pairs R P (m₁ >>= n₁) (m₂ >>= n₂) :=
  hm.bind fun x _ hxy => hxy ▸ hn x

theorem Pairs.map {g₁ : γ₁ → δ₁} {g₂ : γ₂ → δ₂} (hm : Pairs R Q m₁ m₂)
    (hg : ∀ x y, Q x y → P (g₁ x) (g₂ y)) : Pairs R P (g₁ <$> m₁) (g₂ <$> m₂) :=
  hm.bind fun x y hxy => pairs_pure (hg x y hxy)

theorem pairs_get_bind {n₁ : Window W₁ α β → WindowM W₁ α β δ₁}
    {n₂ : Window W₂ α β → WindowM W₂ α β δ₂}
    (h : ∀ s₁ s₂, Twins R s₁ s₂ → Pairs R P (n₁ s₁) (n₂ s₂)) :
    Pairs R P (get >>= n₁) (get >>= n₂) :=
  fun s₁ s₂ hs => h s₁ s₂ hs s₁ s₂ hs

theorem pairs_modifyGet {g₁ : Window W₁ α β → γ₁ × Window W₁ α β}
    {g₂ : Window W₂ α β → γ₂ × Window W₂ α β}
    (h : ∀ s₁ s₂, Twins R s₁ s₂ → InStep Q (Twins R) (g₁ s₁) (g₂ s₂)) :
    Pairs R Q (modifyGet g₁ : WindowM W₁ α β γ₁) (modifyGet g₂) :=
  fun s₁ s₂ hs => ⟨.ok (h s₁ s₂ hs).1, (h s₁ s₂ hs).2⟩

theorem pairs_modify {g₁ : Window W₁ α β → Window W₁ α β} {g₂ : Window W₂ α β → Window W₂ α β}
    (h : ∀ s₁ s₂, Twins R s₁ s₂ → Twins R (g₁ s₁) (g₂ s₂)) :
    Pairs R Eq (modify g₁ : WindowM W₁ α β PUnit) (modify g₂) :=
  fun s₁ s₂ hs => ⟨.ok rfl, h s₁ s₂ hs⟩

theorem pairs_act {g₁ : W₁ → W₁} {g₂ : W₂ → W₂} (h : ∀ ⦃w₁ w₂⦄, R w₁ w₂ → R (g₁ w₁) (g₂ w₂)) :
    Pairs R Eq (act g₁ : WindowM W₁ α β Unit) (act g₂) :=
  pairs_modify fun _ _ hs => hs.inWorld (h hs.world)

theorem pairs_ask {g₁ : W₁ → γ₁ × W₁} {g₂ : W₂ → γ₂ × W₂}
    (h : ∀ ⦃w₁ w₂⦄, R w₁ w₂ → InStep Q R (g₁ w₁) (g₂ w₂)) :
    Pairs R Q (ask g₁ : WindowM W₁ α β γ₁) (ask g₂) :=
  pairs_modifyGet fun _ _ hs => ⟨(h hs.world).1, hs.inWorld (h hs.world).2⟩

theorem pairs_attempt {g₁ : W₁ → Except BackendError γ₁ × W₁}
    {g₂ : W₂ → Except BackendError γ₂ × W₂}
    (h : ∀ ⦃w₁ w₂⦄, R w₁ w₂ → InStep (Matched Q) R (g₁ w₁) (g₂ w₂)) :
    Pairs R Q (attempt g₁ : WindowM W₁ α β γ₁) (attempt g₂) := by
  refine (pairs_ask h).bind fun x y hxy => ?_
  cases hxy with
  | ok hxy => exact pairs_pure hxy
  | error e => exact pairs_throw _

/-- A step of the renderer with the same outcome in both windows. -/
theorem pairs_attempt_same {g₁ : W₁ → Except BackendError γ₁ × W₁}
    {g₂ : W₂ → Except BackendError γ₁ × W₂}
    (h : ∀ ⦃w₁ w₂⦄, R w₁ w₂ → InStep Eq R (g₁ w₁) (g₂ w₂)) :
    Pairs R Eq (attempt g₁ : WindowM W₁ α β γ₁) (attempt g₂) :=
  pairs_attempt fun _ _ hw => ⟨.of_eq (h hw).1, (h hw).2⟩

theorem Pairs.ite {p₁ p₂ : Prop} [Decidable p₁] [Decidable p₂] (hp : p₁ ↔ p₂)
    {n₁ : WindowM W₁ α β γ₁} {n₂ : WindowM W₂ α β γ₂} (hm : Pairs R Q m₁ m₂)
    (hn : Pairs R Q n₁ n₂) : Pairs R Q (if p₁ then m₁ else n₁) (if p₂ then m₂ else n₂) := by
  by_cases h : p₁
  · rw [if_pos h, if_pos (hp.1 h)]
    exact hm
  · rw [if_neg h, if_neg fun h' => h (hp.2 h')]
    exact hn

theorem pairs_forM {ι : Type} {n₁ : ι → WindowM W₁ α β Unit} {n₂ : ι → WindowM W₂ α β Unit}
    (h : ∀ x, Pairs R Eq (n₁ x) (n₂ x)) (xs : List ι) :
    Pairs R Eq (xs.forM n₁) (xs.forM n₂) := by
  induction xs with
  | nil => exact pairs_pure rfl
  | cons x xs ih => exact (h x).seq fun _ => ih

theorem pairs_requireVisible (operation : SurfaceOperation) :
    Pairs R Eq (requireVisible operation : WindowM W₁ α β Unit)
      (requireVisible operation : WindowM W₂ α β Unit) :=
  pairs_get_bind fun _ _ hs => (pairs_pure rfl).ite hs.shown_iff (pairs_throw _)

end Rules

variable {d₁ : Devices W₁ α Raw F₁} {d₂ : Devices W₂ α Raw F₂} (hd : d₁.Alike R d₂)

include hd

/-- Steps that are aside in both windows. -/
theorem pairs_aside {g₁ : W₁ → W₁} {g₂ : W₂ → W₂}
    (h₁ : ∀ w, ∃ call, d₁.Does w call (g₁ w) ∧ call.isAside = true)
    (h₂ : ∀ w, ∃ call, d₂.Does w call (g₂ w) ∧ call.isAside = true) :
    Pairs R Eq (act g₁ : WindowM W₁ α β Unit) (act g₂) := by
  refine pairs_act fun w₁ w₂ hw => ?_
  obtain ⟨call₁, hdoes₁, haside₁⟩ := h₁ w₁
  obtain ⟨call₂, hdoes₂, haside₂⟩ := h₂ w₂
  exact hd.right hdoes₂ haside₂ (hd.left hdoes₁ haside₁ hw)

/-! ### Pumping -/

section Pump

theorem pairs_awaitSize (patience : Nat) :
    Pairs R Eq (awaitSize d₁ patience : WindowM W₁ α β _) (awaitSize d₂ patience) := by
  have hsize : Pairs R Eq (ask d₁.platform.framebufferSize : WindowM W₁ α β _)
      (ask d₂.platform.framebufferSize) := pairs_ask hd.platform.framebufferSize
  have hwait : Pairs R Eq (ask d₁.platform.wait : WindowM W₁ α β _) (ask d₂.platform.wait) :=
    pairs_ask hd.platform.wait
  induction patience with
  | zero => exact hsize.seq fun size => (pairs_throw _).ite Iff.rfl (pairs_pure rfl)
  | succ patience ih =>
    exact hsize.seq fun size => Pairs.ite Iff.rfl
      (hwait.seq fun batch => ih.seq fun later => pairs_pure rfl) (pairs_pure rfl)

variable {follow₁ : List (Report α Raw) → WindowM W₁ α β Unit}
  {follow₂ : List (Report α Raw) → WindowM W₂ α β Unit}

theorem pairs_settleSize (patience : Nat) (hfollow : ∀ rs, Pairs R Eq (follow₁ rs) (follow₂ rs)) :
    Pairs R Eq (settleSize d₁ patience follow₁) (settleSize d₂ patience follow₂) := by
  refine (pairs_awaitSize hd patience).seq fun settled => ?_
  refine (pairs_attempt_same (hd.renderer.resize settled.1)).seq fun _ => ?_
  refine Pairs.seq (pairs_modify fun s₁ s₂ hs => ?_) fun _ => hfollow settled.2
  exact ⟨by rw [hs.config], hs.world, hs.input, hs.events, hs.drawn⟩

variable [Scalar α] [Narrowing α β]

/-- What is left of handing over a report once the widgets have seen its raw event. -/
theorem pairs_occurrence (patience : Nat) (hfollow : ∀ rs, Pairs R Eq (follow₁ rs) (follow₂ rs))
    (occurrence : Option (Occurrence α)) :
    Pairs R Eq
      (match occurrence with
        | some (.resized _) => settleSize d₁ patience follow₁
        | some occurrence => modify (·.receive occurrence)
        | none => pure () : WindowM W₁ α β Unit)
      (match occurrence with
        | some (.resized _) => settleSize d₂ patience follow₂
        | some occurrence => modify (·.receive occurrence)
        | none => pure ()) := by
  rcases occurrence with _ | _ | _ | _ | _ | size
  · exact pairs_pure rfl
  · exact pairs_modify fun _ _ hs => hs.receive _
  · exact pairs_modify fun _ _ hs => hs.receive _
  · exact pairs_modify fun _ _ hs => hs.receive _
  · exact pairs_modify fun _ _ hs => hs.receive _
  · exact pairs_settleSize hd patience hfollow

theorem pairs_handle (patience : Nat) (hfollow : ∀ rs, Pairs R Eq (follow₁ rs) (follow₂ rs))
    (report : Report α Raw) :
    Pairs R Eq (handle d₁ patience follow₁ report) (handle d₂ patience follow₂ report) := by
  obtain ⟨occurrence, raw⟩ := report
  have hrest := pairs_occurrence hd patience hfollow occurrence
  cases raw with
  | none => exact hrest
  | some raw =>
    exact (pairs_aside hd (fun w => ⟨_, .rawEvent raw w, rfl⟩)
      fun w => ⟨_, .rawEvent raw w, rfl⟩).seq fun _ => hrest

theorem pairs_dispatch (patience : Nat) (reports : List (Report α Raw)) :
    Pairs R Eq (dispatch d₁ patience reports : WindowM W₁ α β _)
      (dispatch d₂ patience reports) := by
  -- what a report defers is handed over with less patience
  induction patience generalizing reports with
  | zero => exact pairs_forM (pairs_handle hd 0 fun _ => pairs_pure rfl) reports
  | succ patience ih => exact pairs_forM (pairs_handle hd (patience + 1) ih) reports

theorem pairs_resize : Pairs R Eq (resize d₁ : WindowM W₁ α β _) (resize d₂) := by
  refine pairs_get_bind fun s₁ s₂ hs => ?_
  rw [hd.platform.patience hs.world]
  exact pairs_settleSize hd _ (pairs_dispatch hd _)

theorem pairs_pump : Pairs R Eq (pump d₁ : WindowM W₁ α β _) (pump d₂) := by
  refine (pairs_ask hd.platform.poll).seq fun reports => pairs_get_bind fun s₁ s₂ hs => ?_
  rw [hd.platform.patience hs.world]
  exact pairs_dispatch hd _ reports

end Pump

/-! ### Frames -/

section Frames

theorem pairs_prepareForNextFrame :
    Pairs R Eq (prepareForNextFrame d₁ : WindowM W₁ α β _) (prepareForNextFrame d₂) := by
  refine (pairs_act hd.renderer.prepare).seq fun _ => ?_
  refine (pairs_aside hd (fun w => ⟨_, .prepareGui w, rfl⟩)
    fun w => ⟨_, .prepareGui w, rfl⟩).seq fun _ => ?_
  exact pairs_modify fun s₁ s₂ hs => ⟨hs.config, hs.world, hs.input, hs.events, rfl⟩

/-- The widgets may paint different things. -/
theorem pairs_drawFrame : Pairs R Eq (drawFrame d₁ : WindowM W₁ α β _) (drawFrame d₂) := by
  have hframe : Pairs R (fun _ _ => True) (ask d₁.gui.endFrame : WindowM W₁ α β F₁)
      (ask d₂.gui.endFrame) :=
    pairs_ask fun w₁ w₂ hw => ⟨trivial, hd.right (.endFrame w₂) rfl (hd.left (.endFrame w₁) rfl hw)⟩
  refine hframe.bind fun f₁ f₂ _ => (pairs_attempt_same (hd.renderer.draw f₁ f₂)).seq fun _ => ?_
  exact pairs_modify fun s₁ s₂ hs => ⟨hs.config, hs.world, hs.input, hs.events, rfl⟩

theorem pairs_ensureDrawn : Pairs R Eq (ensureDrawn d₁ : WindowM W₁ α β _) (ensureDrawn d₂) :=
  pairs_get_bind fun s₁ s₂ hs =>
    (pairs_pure rfl).ite (by rw [hs.drawn]) (pairs_drawFrame hd)

theorem pairs_finishRead : Pairs R Eq (finishRead d₁ : WindowM W₁ α β _) (finishRead d₂) :=
  pairs_get_bind fun _ _ hs =>
    (pairs_pure rfl).ite hs.shown_iff (pairs_prepareForNextFrame hd)

theorem pairs_readFrame {g₁ : W₁ → Except BackendError γ₁ × W₁}
    {g₂ : W₂ → Except BackendError γ₂ × W₂}
    (h : ∀ ⦃w₁ w₂⦄, R w₁ w₂ → InStep (Matched Q) R (g₁ w₁) (g₂ w₂)) {k₁ : γ₁ → δ₁} {k₂ : γ₂ → δ₂}
    (hk : ∀ x y, Q x y → P (k₁ x) (k₂ y)) :
    Pairs R P (Operation.readFrame d₁ g₁ k₁ : WindowM W₁ α β δ₁)
      (Operation.readFrame d₂ g₂ k₂) :=
  (pairs_ensureDrawn hd).seq fun _ => (pairs_attempt h).bind fun x y hxy =>
    (pairs_finishRead hd).seq fun _ => pairs_pure (hk x y hxy)

end Frames

/-! ### Steps that only one window makes -/

omit hd

section Quiet

variable {d : Devices W α Raw Frame} {I : Window W α β → Prop}

/-- What holds of a window is not disturbed by calls that are aside, and tells nothing of time and
of who drives the cursor. -/
structure Unmoved (d : Devices W α Raw Frame) (I : Window W α β → Prop) : Prop where
  aside : ∀ {s call w}, d.Does s.world call w → call.isAside = true → I s → I (s.inWorld w)
  pacer : ∀ {s} pacer, I s → I { s with pacer }
  rate : ∀ {s} rate, I s → I { s with rate }
  cursor : ∀ {s} cursor, I s → I { s with cursor }

/-- Running `m` does not fail and keeps what holds of the window. -/
def Quiet (I : Window W α β → Prop) (m : WindowM W α β Unit) : Prop :=
  ∀ s, I s → ∃ s', exec m s = (.ok (), s') ∧ I s'

variable (hI : Unmoved d I)

include hI

theorem quiet_pace [Scalar α] : Quiet I (pace d) := by
  intro s hs
  refine ⟨_, rfl, ?_⟩
  simp only [Pacing.Pacer.pace]
  split
  · exact hI.pacer _ (hI.aside (.sleepUntil _ s.world) rfl hs)
  · exact hI.pacer _ hs

theorem quiet_countFrame [Scalar α] : Quiet I (countFrame d) := by
  intro s hs
  rw [countFrame, exec_bind_of_ok (exec_get s)]
  rcases (s.rate.tick (d.clock.now s.world) : Option α × _) with ⟨_ | average, rate⟩
  · exact ⟨_, rfl, hI.rate rate hs⟩
  · exact ⟨_, rfl, hI.aside (.setTitle _ s.world) rfl (hI.rate rate hs)⟩

theorem Unmoved.apply {s : Window W α β} (hs : I s) (previous next : Cursor.Applied) :
    I (s.inWorld (d.platform.cursor.apply previous next s.world)) := by
  have hvisible (value : Bool) : I (s.inWorld (d.platform.cursor.setVisible value s.world)) :=
    hI.aside (.setCursorVisible value s.world) rfl hs
  unfold Cursor.Sink.apply
  split
  · exact hs
  · cases next with
    | guiControlled =>
      dsimp only
      split
      · exact hvisible true
      · exact hs
    | userHidden => exact hvisible false
    | userShape shape =>
      have hshape := hI.aside (.setCursorShape shape _) rfl (hvisible true)
      dsimp only
      rcases hset : d.platform.cursor.setShape shape (d.platform.cursor.setVisible true s.world)
        with ⟨_ | _, w⟩
      · rw [inWorld_world, hset] at hshape
        exact hI.aside (s := s.inWorld w) (.setCursorShape .arrow w) rfl hshape
      · rw [inWorld_world, hset] at hshape
        exact hshape

theorem quiet_settleCursor : Quiet I (settleCursor d) := by
  intro s hs
  let next := (s.cursor.arbitrate (signal d s.world) d.platform.cursor s.world).1
  have hset : I { s with
      cursor := next
      world := d.platform.cursor.apply s.cursor.applied next.applied s.world } :=
    hI.cursor next (hI.apply hs s.cursor.applied next.applied)
  rw [settleCursor, exec_bind_of_ok (exec_get s)]
  dsimp only
  rw [exec_bind_of_ok (exec_set _ _)]
  split
  · exact ⟨_, rfl, hI.aside (.reclaimCursor _) rfl hset⟩
  · exact ⟨_, rfl, hset⟩

end Quiet

/-- Each of two windows makes a quiet step. -/
theorem pairs_quiet {m₁ : WindowM W₁ α β Unit} {m₂ : WindowM W₂ α β Unit}
    (h₁ : ∀ s₂, Quiet (fun s₁ => Twins R s₁ s₂) m₁)
    (h₂ : ∀ s₁, Quiet (fun s₂ => Twins R s₁ s₂) m₂) : Pairs R Eq m₁ m₂ := by
  intro s₁ s₂ hs
  obtain ⟨s₁', hexec₁, hleft⟩ := h₁ s₂ s₁ hs
  obtain ⟨s₂', hexec₂, hboth⟩ := h₂ s₁' s₂ hleft
  rw [hexec₁, hexec₂]
  exact ⟨.ok rfl, hboth⟩

section Turn

include hd

theorem unmoved_left (s₂ : Window W₂ α β) : Unmoved d₁ fun s₁ => Twins R s₁ s₂ where
  aside hdoes haside hs :=
    ⟨hs.config, hd.left hdoes haside hs.world, hs.input, hs.events, hs.drawn⟩
  pacer _ hs := ⟨hs.config, hs.world, hs.input, hs.events, hs.drawn⟩
  rate _ hs := ⟨hs.config, hs.world, hs.input, hs.events, hs.drawn⟩
  cursor _ hs := ⟨hs.config, hs.world, hs.input, hs.events, hs.drawn⟩

theorem unmoved_right (s₁ : Window W₁ α β) : Unmoved d₂ fun s₂ => Twins R s₁ s₂ where
  aside hdoes haside hs :=
    ⟨hs.config, hd.right hdoes haside hs.world, hs.input, hs.events, hs.drawn⟩
  pacer _ hs := ⟨hs.config, hs.world, hs.input, hs.events, hs.drawn⟩
  rate _ hs := ⟨hs.config, hs.world, hs.input, hs.events, hs.drawn⟩
  cursor _ hs := ⟨hs.config, hs.world, hs.input, hs.events, hs.drawn⟩

variable [Scalar α]

theorem pairs_showFrame [Narrowing α β] :
    Pairs R Eq (showFrame d₁ : WindowM W₁ α β _) (showFrame d₂) := by
  refine (pairs_requireVisible _).seq fun _ => (pairs_ensureDrawn hd).seq fun _ => ?_
  refine (pairs_attempt_same hd.renderer.present).seq fun _ => (pairs_pump hd).seq fun _ => ?_
  -- the windows may sleep and count frames differently
  refine Pairs.seq (pairs_quiet (fun s₂ => quiet_pace (unmoved_left hd s₂))
    fun s₁ => quiet_pace (unmoved_right hd s₁)) fun _ => ?_
  refine Pairs.seq (pairs_quiet (fun s₂ => quiet_countFrame (unmoved_left hd s₂))
    fun s₁ => quiet_countFrame (unmoved_right hd s₁)) fun _ => ?_
  refine pairs_get_bind fun s₁ s₂ _ => (pairs_aside hd (fun w => ⟨_, .suppressCursor _ w, rfl⟩)
    fun w => ⟨_, .suppressCursor _ w, rfl⟩).seq fun _ => ?_
  -- and the widgets may want different cursors
  exact (pairs_prepareForNextFrame hd).seq fun _ =>
    pairs_quiet (fun s₂ => quiet_settleCursor (unmoved_left hd s₂))
      fun s₁ => quiet_settleCursor (unmoved_right hd s₁)

end Turn

end Window

/-! ### Operations -/

namespace Twins

open Window

variable {R : W₁ → W₂ → Prop} {s₁ : Window W₁ α β} {s₂ : Window W₂ α β}

theorem isPressed_eq (hs : Twins R s₁ s₂) : s₁.isPressed = s₂.isPressed := by
  funext name
  simp only [isPressed, hs.input]

theorem isRunning_eq {d₁ : Devices W₁ α Raw F₁} {d₂ : Devices W₂ α Raw F₂} (hd : d₁.Alike R d₂)
    (hs : Twins R s₁ s₂) : s₁.isRunning d₁ = s₂.isRunning d₂ := by
  simp only [isRunning, hs.config, hd.platform.closeRequested hs.world]

end Twins

section Operations

open Window

variable {R : W₁ → W₂ → Prop} {d₁ : Devices W₁ α Raw F₁} {d₂ : Devices W₂ α Raw F₂}
  {op₁ : Operation W₁} {op₂ : Operation W₂}

theorem Operation.Alike.isPrivate_eq (hop : Operation.Alike R op₁ op₂) :
    op₁.isPrivate = op₂.isPrivate := by
  cases hop with
  | same op => cases op <;> rfl
  | outside => rfl

variable [Scalar α] [Narrowing α β] [Scalar β]

/-- Operations that are alike lead from twins to twins, and answer the same unless the answer is
private. -/
theorem Operation.Alike.pairs_perform (hd : d₁.Alike R d₂) (hop : Operation.Alike R op₁ op₂) :
    Pairs R (fun a₁ a₂ => op₁.isPrivate = false → a₁ = a₂)
      (op₁.perform d₁ : WindowM W₁ α β (Answer α β)) (op₂.perform d₂) := by
  cases hop with
  | outside hf => exact (pairs_act hf).seq fun _ => pairs_pure fun _ => rfl
  | same op =>
    cases op with
    | showFrame => exact (pairs_showFrame hd).seq fun _ => pairs_pure fun _ => rfl
    | drawFrame => exact (pairs_drawFrame hd).seq fun _ => pairs_pure fun _ => rfl
    | dumpImage =>
      rw [ported, ported, perform_dumpImage, perform_dumpImage]
      exact pairs_readFrame hd hd.renderer.dump nofun
    | writeImage path =>
      rw [ported, ported, perform_writeImage, perform_writeImage]
      refine pairs_readFrame hd (Q := Eq) (fun w₁ w₂ hw => ?_) fun _ _ _ _ => rfl
      obtain ⟨hanswer, hworld⟩ := hd.renderer.writeImage path hw
      exact ⟨.of_eq hanswer, hworld⟩
    | copyDepth target =>
      rw [ported, ported, perform_copyDepth, perform_copyDepth]
      exact pairs_readFrame hd (hd.renderer.copyDepth target) nofun
    | requestStop stop =>
      refine Pairs.seq (pairs_get_bind fun s₁ s₂ hs => ?_) fun _ => pairs_pure fun _ => rfl
      exact (pairs_act (hd.platform.setCloseRequested stop)).ite hs.shown_iff (pairs_pure rfl)
    | isRunning =>
      exact pairs_get_bind fun s₁ s₂ hs => pairs_pure fun _ => by rw [hs.isRunning_eq hd]
    | isPressed name =>
      exact pairs_get_bind fun s₁ s₂ hs => pairs_pure fun _ => by rw [hs.isPressed_eq]
    | isAnyPressed names =>
      exact pairs_get_bind fun s₁ s₂ hs => pairs_pure fun _ => by
        rw [Window.isAnyPressed, Window.isAnyPressed, hs.isPressed_eq]
    | cursorPosition =>
      refine Pairs.map (Q := Eq) ?_ fun _ _ h _ => by rw [h]
      exact (pairs_requireVisible _).seq fun _ => pairs_get_bind fun s₁ s₂ hs =>
        pairs_pure (by rw [hs.input])
    | takeScrollDelta =>
      refine Pairs.map (Q := Eq) ?_ fun _ _ h _ => by rw [h]
      refine (pairs_requireVisible _).seq fun _ => pairs_modifyGet fun s₁ s₂ hs => ?_
      exact ⟨by rw [hs.input], hs.config, hs.world, by rw [hs.input], hs.events, hs.drawn⟩
    | pollEvents filter | pollOneEvent filter =>
      refine Pairs.map (Q := Eq) ?_ fun _ _ h _ => by rw [h]
      refine (pairs_requireVisible _).seq fun _ => (pairs_pump hd).seq fun _ =>
        pairs_modifyGet fun s₁ s₂ hs => ?_
      exact ⟨by rw [hs.events], hs.config, hs.world, hs.input, by rw [hs.events], hs.drawn⟩
    | currentEvent =>
      refine Pairs.map (Q := Eq) ?_ fun _ _ h _ => by rw [h]
      exact (pairs_requireVisible _).seq fun _ => pairs_get_bind fun s₁ s₂ hs =>
        pairs_pure (by rw [hs.events])
    | setCurrentEvent e =>
      refine Pairs.seq ((pairs_requireVisible _).seq fun _ => pairs_modify fun s₁ s₂ hs => ?_)
        fun _ => pairs_pure fun _ => rfl
      exact ⟨hs.config, hs.world, hs.input, by rw [hs.events], hs.drawn⟩
    | setCursor index force =>
      refine Pairs.seq ((pairs_requireVisible _).seq fun _ => ?_) fun _ => pairs_pure fun _ => rfl
      cases Cursor.Request.ofIndex index force with
      | error e => exact pairs_throw _
      | ok request =>
        exact pairs_modify fun s₁ s₂ hs => ⟨hs.config, hs.world, hs.input, hs.events, hs.drawn⟩
    | setCursorRequest request =>
      refine Pairs.seq ((pairs_requireVisible _).seq fun _ => pairs_modify fun s₁ s₂ hs => ?_)
        fun _ => pairs_pure fun _ => rfl
      exact ⟨hs.config, hs.world, hs.input, hs.events, hs.drawn⟩
    | appliedCursor => exact pairs_get_bind fun _ _ _ => pairs_pure nofun
    | guiWantsMouse | guiWantsKeyboard =>
      refine Pairs.map (Q := fun _ _ => True) ?_ fun _ _ _ => nofun
      exact (pairs_requireVisible _).seq fun _ => pairs_get_bind fun _ _ _ => pairs_pure trivial
    | shape =>
      exact pairs_get_bind fun s₁ s₂ hs => pairs_pure fun _ =>
        congrArg Answer.extent (hd.renderer.size hs.world)
    | outside => exact (pairs_act fun _ _ hw => hw).seq fun _ => pairs_pure fun _ => rfl

omit [Scalar β] in
/-- What opening a window does to the window it starts from. -/
theorem pairs_opening (hd : d₁.Alike R d₂) (config : Config) :
    Pairs R Eq
      (do
        if let some flaw := config.flaw? then
          fail (.invalidConfig flaw)
        if config.showWindow then
          resize d₁
        prepareForNextFrame d₁ : WindowM W₁ α β Unit)
      (do
        if let some flaw := config.flaw? then
          fail (.invalidConfig flaw)
        if config.showWindow then
          resize d₂
        prepareForNextFrame d₂) := by
  have hsettled : Pairs R Eq
      (do
        if config.showWindow then
          resize d₁
        prepareForNextFrame d₁ : WindowM W₁ α β Unit)
      (do
        if config.showWindow then
          resize d₂
        prepareForNextFrame d₂) :=
    ((pairs_resize hd).seq fun _ => pairs_prepareForNextFrame hd).ite Iff.rfl
      (pairs_prepareForNextFrame hd)
  cases config.flaw? with
  | some flaw => exact Pairs.seq (pairs_throw _) fun _ => hsettled
  | none => exact hsettled

theorem openWith_twins (hd : d₁.Alike R d₂) (config : Config) {w₁ : W₁} {w₂ : W₂} (hw : R w₁ w₂) :
    InStep Eq (Twins R) (openWith d₁ config w₁ : _ × Window W₁ α β)
      (openWith d₂ config w₂ : _ × Window W₂ α β) := by
  obtain ⟨houtcome, hs⟩ := pairs_opening (β := β) hd config (fresh d₁ config w₁)
    (fresh d₂ config w₂) ⟨rfl, hw, rfl, rfl, rfl⟩
  exact ⟨houtcome.eq, hs⟩

end Operations

end WindowHost
