import WindowHost.Proofs.Delivery

/-!
# Courses of a window

An `Operation` is anything that a host program does with its window, and `Reached` are the windows
that operations lead to. A `Course` is the same with its history: each `Turn` tells what was asked
and answered, the batch that was pumped, and what of it was delivered. Every window that is reached
has a course.
-/

namespace WindowHost

variable {W α β Raw Frame : Type}

/-- What a host program can do with a window. -/
inductive Operation (W : Type) where
  | showFrame
  | drawFrame
  | dumpImage
  | writeImage (path : String)
  | copyDepth (target : Array Float32)
  | requestStop (stop : Bool)
  | isRunning
  | isPressed (name : String)
  | isAnyPressed (names : List String)
  | cursorPosition
  | takeScrollDelta
  | pollEvents (filter : Event.Kind)
  | pollOneEvent (filter : Event.Kind)
  | currentEvent
  | setCurrentEvent (e : Event)
  | setCursor (index : Int32) (force : Bool)
  | setCursorRequest (request : Cursor.Request)
  | appliedCursor
  | guiWantsMouse
  | guiWantsKeyboard
  | shape
  /-- Something that happens to the devices while the window is left alone. -/
  | outside (f : W → W)

/-- What an operation answers. -/
inductive Answer (α β : Type) where
  | done
  | flag (b : Bool)
  | place (p : β × β)
  | scroll (delta : α × α)
  | events (taken : List Event)
  | event (e : Event)
  | driver (a : Cursor.Applied)
  | extent (size : Extent)
  | picture (p : Image.Picture)
  | depth (values : Array Float32)

namespace Operation

open Window

variable [Scalar α] [Narrowing α β] [Scalar β] (d : Devices W α Raw Frame)

def perform : Operation W → WindowM W α β (Answer α β)
  | .showFrame => do
    Window.showFrame d
    pure .done
  | .drawFrame => do
    Window.drawFrame d
    pure .done
  | .dumpImage => .picture <$> Window.dumpImage d
  | .writeImage path => do
    Window.writeImage d path
    pure .done
  | .copyDepth target => .depth <$> Window.copyDepth d target
  | .requestStop stop => do
    Window.requestStop d stop
    pure .done
  | .isRunning => do pure (.flag ((← get).isRunning d))
  | .isPressed name => do pure (.flag ((← get).isPressed name))
  | .isAnyPressed names => do pure (.flag ((← get).isAnyPressed names))
  | .cursorPosition => .place <$> Window.cursorPosition
  | .takeScrollDelta => .scroll <$> Window.takeScrollDelta
  | .pollEvents filter => .events <$> Window.pollEvents d filter
  | .pollOneEvent filter => .flag <$> Window.pollOneEvent d filter
  | .currentEvent => .event <$> Window.currentEvent
  | .setCurrentEvent e => do
    Window.setCurrentEvent e
    pure .done
  | .setCursor index force => do
    Window.setCursor index force
    pure .done
  | .setCursorRequest request => do
    Window.setCursorRequest request
    pure .done
  | .appliedCursor => do pure (.driver (← get).appliedCursor)
  | .guiWantsMouse => .flag <$> Window.guiWantsMouse d
  | .guiWantsKeyboard => .flag <$> Window.guiWantsKeyboard d
  | .shape => do pure (.extent ((← get).shape d))
  | .outside f => do
    act f
    pure .done

def pumps : Operation W → Bool
  | .showFrame | .pollEvents _ | .pollOneEvent _ => true
  | _ => false

/-- What an operation does before it pumps. -/
def lead : Operation W → WindowM W α β Unit
  | .showFrame => do
    requireVisible .showFrame
    ensureDrawn d
    attempt d.renderer.present
  | .pollEvents _ => requireVisible .pollEvents
  | .pollOneEvent _ => requireVisible .pollOneEvent
  | _ => pure ()

/-- What `showFrame` does after it has pumped. -/
def turnFrame : WindowM W α β Unit := do
  pace d
  countFrame d
  act (d.gui.suppressCursor (← get).cursor.suppressesGui)
  prepareForNextFrame d
  settleCursor d

/-- What an operation does after it has pumped, or all of it if it does not pump. -/
def tail : Operation W → WindowM W α β (Answer α β)
  | .showFrame => do
    turnFrame d
    pure .done
  | .pollEvents filter => modifyGet fun s =>
    let (taken, events) := s.events.drain filter
    (.events taken, { s with events })
  | .pollOneEvent filter => modifyGet fun s =>
    let (found, events) := s.events.consumeOne filter
    (.flag found, { s with events })
  | op => op.perform d

/-- An operation that pumps is its lead, the pump and its tail. -/
theorem perform_pumps {op : Operation W} (hop : op.pumps = true) :
    op.perform (β := β) d = (do op.lead d; pump d; op.tail d) := by
  cases op with
  | showFrame =>
    simp only [perform, Window.showFrame, lead, tail, turnFrame, bind_assoc]
  | pollEvents filter =>
    simp only [perform, Window.pollEvents, lead, tail, map_bind]
    rfl
  | pollOneEvent filter =>
    simp only [perform, Window.pollOneEvent, lead, tail, map_bind]
    rfl
  | _ => cases hop

/-- How an operation that pumps comes to its end: refused by its lead, broken off in the pump, or in
its tail. -/
inductive Pumping (op : Operation W) (s : Window W α β) :
    Except Halt (Answer α β) → Window W α β → Prop where
  | refused {e s'} : exec (op.lead d) s = (.error e, s') → Pumping op s (.error e) s'
  | broken {s₁ e s'} : exec (op.lead d) s = (.ok (), s₁) → exec (pump d) s₁ = (.error e, s') →
      Pumping op s (.error e) s'
  | finished {s₁ s₂ res s'} : exec (op.lead d) s = (.ok (), s₁) →
      exec (pump d) s₁ = (.ok (), s₂) → exec (op.tail d) s₂ = (res, s') → Pumping op s res s'

variable {d} in
theorem pumping {op : Operation W} (hop : op.pumps = true) {s s' : Window W α β}
    {res : Except Halt (Answer α β)} (h : exec (op.perform d) s = (res, s')) :
    Pumping d op s res s' := by
  rw [perform_pumps d hop] at h
  rcases hlead : exec (op.lead d) s with ⟨e | ⟨⟩, s₁⟩
  · rw [exec_bind_of_error hlead] at h
    cases h
    exact .refused hlead
  · rw [exec_bind_of_ok hlead] at h
    rcases hpump : exec (pump d) s₁ with ⟨e | ⟨⟩, s₂⟩
    · rw [exec_bind_of_error hpump] at h
      cases h
      exact .broken hlead hpump
    · rw [exec_bind_of_ok hpump] at h
      exact .finished hlead hpump h

theorem tail_of_not_pumps {op : Operation W} (hop : op.pumps = false) :
    op.tail (β := β) d = op.perform d := by
  cases op with
  | showFrame | pollEvents | pollOneEvent => cases hop
  | _ => rfl

/-! ## Effects -/

/-- What an operation that succeeds does to the queue, apart from pumping. -/
def onEvents : Operation W → Event.Queue → Event.Queue
  | .pollEvents filter, q => (q.drain filter).2
  | .pollOneEvent filter, q => (q.consumeOne filter).2
  | .setCurrentEvent e, q => q.setCurrent e
  | _, q => q

/-- What an operation that succeeds does to the input, apart from pumping. -/
def onInput : Operation W → Input α β Unit → Input α β Unit
  | .takeScrollDelta, i => i.takeScroll.2
  | _, i => i

/-- The cursor that the host program wants after an operation that succeeds. -/
def onRequest : Operation W → Cursor.Request → Cursor.Request
  | .setCursor index force, r => (Cursor.Request.ofIndex index force).toOption.getD r
  | .setCursorRequest request, _ => request
  | _, r => r

section Keeps

variable {γ : Type} {f : Window W α β → γ} (hf : Steady f) {op : Operation W}

include hf

omit [Scalar α] [Narrowing α β] [Scalar β] in
theorem keeps_lead (op : Operation W) : Keeps f (op.lead d) := by
  cases op with
  | showFrame =>
    exact (keeps_requireVisible _).bind fun _ => (keeps_ensureDrawn d hf).bind fun _ =>
      keeps_attempt fun s => hf.inWorld s _
  | pollEvents => exact keeps_requireVisible _
  | pollOneEvent => exact keeps_requireVisible _
  | _ => exact keeps_pure _

/-- The tail of an operation changes the queue and the input as that operation does. -/
theorem keeps_tail (hp : ∀ s p, f { s with pacer := p } = f s)
    (hr : ∀ s r, f { s with rate := r } = f s) (hc : ∀ s c, f { s with cursor := c } = f s)
    (he : ∀ s, f { s with events := op.onEvents s.events } = f s)
    (hi : ∀ s, f { s with input := op.onInput s.input } = f s) : Keeps f (op.tail d) := by
  cases op with
  | showFrame =>
    refine Keeps.bind ?_ fun _ => keeps_pure _
    exact (keeps_pace d hf hp).bind fun _ => (keeps_countFrame d hf hr).bind fun _ =>
      keeps_get.bind fun _ => (keeps_act fun s => hf.inWorld s _).bind fun _ =>
        (keeps_prepareForNextFrame d hf).bind fun _ => keeps_settleCursor d hf hc
  | drawFrame => exact (keeps_drawFrame d hf).bind fun _ => keeps_pure _
  | dumpImage => exact (keeps_dumpImage d hf).map _
  | writeImage path => exact (keeps_writeImage d hf path).bind fun _ => keeps_pure _
  | copyDepth target => exact (keeps_copyDepth d hf target).map _
  | requestStop stop => exact (keeps_requestStop d hf stop).bind fun _ => keeps_pure _
  | cursorPosition =>
    exact ((keeps_requireVisible _).bind fun _ => keeps_get.bind fun _ => keeps_pure _).map _
  | takeScrollDelta =>
    exact ((keeps_requireVisible _).bind fun _ => keeps_modifyGet hi).map _
  | pollEvents filter => exact keeps_modifyGet he
  | pollOneEvent filter => exact keeps_modifyGet he
  | currentEvent | guiWantsMouse | guiWantsKeyboard =>
    exact ((keeps_requireVisible _).bind fun _ => keeps_get.bind fun _ => keeps_pure _).map _
  | setCurrentEvent e =>
    exact ((keeps_requireVisible _).bind fun _ => keeps_modify he).bind fun _ => keeps_pure _
  | setCursor index force =>
    refine Keeps.bind ((keeps_requireVisible _).bind fun _ => ?_) fun _ => keeps_pure _
    rcases Cursor.Request.ofIndex index force with e | request
    · exact keeps_fail e
    · exact keeps_modify fun s => hc s _
  | setCursorRequest request =>
    refine Keeps.bind ((keeps_requireVisible _).bind fun _ => ?_) fun _ => keeps_pure _
    exact keeps_modify fun s => hc s _
  | isRunning | isPressed | isAnyPressed | appliedCursor | shape =>
    exact keeps_get.bind fun _ => keeps_pure _
  | outside g => exact (keeps_act fun s => hf.inWorld s _).bind fun _ => keeps_pure _

end Keeps

section Unchanged

variable (op : Operation W) {s s' : Window W α β} {res : Except Halt Unit}

omit [Scalar α] [Narrowing α β] [Scalar β] in
theorem lead_config (h : exec (op.lead d) s = (res, s')) : s'.config = s.config :=
  (op.keeps_lead d (f := Window.config) ⟨fun _ _ => rfl, fun _ _ => rfl⟩).eq h

omit [Scalar α] [Narrowing α β] [Scalar β] in
theorem lead_input (h : exec (op.lead d) s = (res, s')) : s'.input = s.input :=
  (op.keeps_lead d (f := Window.input) ⟨fun _ _ => rfl, fun _ _ => rfl⟩).eq h

omit [Scalar α] [Narrowing α β] [Scalar β] in
theorem lead_events (h : exec (op.lead d) s = (res, s')) : s'.events = s.events :=
  (op.keeps_lead d (f := Window.events) ⟨fun _ _ => rfl, fun _ _ => rfl⟩).eq h

theorem tail_config {res : Except Halt (Answer α β)} (h : exec (op.tail d) s = (res, s')) :
    s'.config = s.config :=
  (op.keeps_tail d (f := Window.config) ⟨fun _ _ => rfl, fun _ _ => rfl⟩ (fun _ _ => rfl)
    (fun _ _ => rfl) (fun _ _ => rfl) (fun _ => rfl) (fun _ => rfl)).eq h

end Unchanged

theorem exec_tail_pollEvents (filter : Event.Kind) (s : Window W α β) :
    exec ((Operation.pollEvents filter).tail d) s =
      (.ok (.events (s.events.drain filter).1),
        { s with events := (s.events.drain filter).2 }) := rfl

theorem exec_tail_pollOneEvent (filter : Event.Kind) (s : Window W α β) :
    exec ((Operation.pollOneEvent filter).tail d) s =
      (.ok (.flag (s.events.consumeOne filter).1),
        { s with events := (s.events.consumeOne filter).2 }) := rfl

theorem exec_setCurrentEvent (e : Event) (s : Window W α β) :
    exec ((Operation.setCurrentEvent e).perform d) s =
      if s.config.showWindow then (.ok .done, { s with events := s.events.setCurrent e })
      else (.error (.failed (.noVisibleSurface .setCurrentEvent)), s) := by
  rw [perform, exec_bind, Window.setCurrentEvent, exec_bind, exec_requireVisible]
  rcases s.config.showWindow with _ | _ <;> rfl

theorem exec_takeScrollDelta (s : Window W α β) :
    exec ((Operation.takeScrollDelta).perform d) s =
      if s.config.showWindow then
        (.ok (.scroll s.input.takeScroll.1), { s with input := s.input.takeScroll.2 })
      else (.error (.failed (.noVisibleSurface .takeScrollDelta)), s) := by
  rw [perform, exec_map, Window.takeScrollDelta, exec_bind, exec_requireVisible]
  rcases s.config.showWindow with _ | _ <;> rfl

theorem exec_tail_events (op : Operation W) {s s' : Window W α β} {res : Except Halt (Answer α β)}
    (h : exec (op.tail d) s = (res, s')) :
    s'.events = if res.isOk then op.onEvents s.events else s.events := by
  have keep (hop : ∀ q, op.onEvents q = q) : s'.events = s.events :=
    (keeps_tail d (f := Window.events) ⟨fun _ _ => rfl, fun _ _ => rfl⟩ (fun _ _ => rfl)
      (fun _ _ => rfl) (fun _ _ => rfl) (fun s => hop s.events) (fun _ => rfl)).eq h
  cases op with
  | pollEvents filter =>
    cases h
    rfl
  | pollOneEvent filter =>
    cases h
    rfl
  | setCurrentEvent e =>
    rw [tail_of_not_pumps d rfl, exec_setCurrentEvent] at h
    split at h <;> cases h <;> rfl
  | _ =>
    rw [keep fun _ => rfl]
    rcases res with _ | _ <;> rfl

theorem exec_tail_input (op : Operation W) {s s' : Window W α β} {res : Except Halt (Answer α β)}
    (h : exec (op.tail d) s = (res, s')) :
    s'.input = if res.isOk then op.onInput s.input else s.input := by
  have keep (hop : ∀ i : Input α β Unit, op.onInput i = i) : s'.input = s.input :=
    (keeps_tail d (f := Window.input) ⟨fun _ _ => rfl, fun _ _ => rfl⟩ (fun _ _ => rfl)
      (fun _ _ => rfl) (fun _ _ => rfl) (fun _ => rfl) (fun s => hop s.input)).eq h
  cases op with
  | takeScrollDelta =>
    rw [tail_of_not_pumps d rfl, exec_takeScrollDelta] at h
    split at h <;> cases h <;> rfl
  | _ =>
    rw [keep fun _ => rfl]
    rcases res with _ | _ <;> rfl

end Operation

/-! ## Turns -/

/-- One operation of a course, or its opening if there is none: the batch that was pumped, the
deliveries that it led to, the answer, and the event in the current slot afterwards. -/
structure Turn (W α β Raw : Type) where
  operation : Option (Operation W)
  batch : List (Report α Raw)
  delivered : List (Delivery α Raw)
  answer : Except WindowError (Answer α β)
  slot : Event

/-- What a turn does to the queue after its new events have joined. -/
def Turn.onEvents (turn : Turn W α β Raw) (q : Event.Queue) : Event.Queue :=
  match turn.operation, turn.answer with
  | some op, .ok _ => op.onEvents q
  | _, _ => q

/-- What a turn does to the input after its deliveries. -/
def Turn.onInput [Scalar α] (turn : Turn W α β Raw) (i : Input α β Unit) : Input α β Unit :=
  match turn.operation, turn.answer with
  | some op, .ok _ => op.onInput i
  | _, _ => i

/-- What does not show the scrolling is left alone by what an operation does to the input. -/
theorem Turn.onInput_eq [Scalar α] {γ : Type} {f : Input α β Unit → γ}
    (hf : ∀ i, f i.takeScroll.2 = f i) (turn : Turn W α β Raw) (i : Input α β Unit) :
    f (turn.onInput i) = f i := by
  unfold Turn.onInput
  split
  · rename_i op _ _ _
    cases op with
    | takeScrollDelta => exact hf i
    | _ => rfl
  · rfl

/-- All deliveries of a course. -/
def history (turns : List (Turn W α β Raw)) : List (Delivery α Raw) :=
  turns.flatMap fun turn => turn.delivered

theorem history_append (turns turns' : List (Turn W α β Raw)) :
    history (turns ++ turns') = history turns ++ history turns' := List.flatMap_append

theorem history_singleton (turn : Turn W α β Raw) : history [turn] = turn.delivered := by
  simp [history]

namespace Window

variable [Scalar α] [Narrowing α β] [Scalar β] (d : Devices W α Raw Frame)

/-- The window before it settles its first size. -/
def fresh (config : Config) (world : W) : Window W α β where
  config
  world
  input := (Input.empty.addKeyListener ()).addMouseListener ()
  events := {}
  cursor := {}
  pacer := Pacing.Pacer.start (d.clock.now world)
  rate := Pacing.Rate.start (d.clock.now world)
  drawn := false

/-- What opening a window hands over. -/
def openingBatch (config : Config) : List (Report α Raw) :=
  if config.showWindow then [.opening] else []

/-- An operation with its history. Without a pump there is no batch, and nothing is delivered. -/
inductive Step (s : Window W α β) : Turn W α β Raw → Window W α β → Prop where
  | alone {op a s'} : op.pumps = false → exec (op.perform d) s = (Except.mapError .failed a, s') →
      Step s ⟨some op, [], [], a, s'.events.current⟩ s'
  | refused {op e s'} : op.pumps = true → exec (op.lead d) s = (.error (.failed e), s') →
      Step s ⟨some op, [], [], .error e, s'.events.current⟩ s'
  | interrupted {op s₁ w batch ds e s'} : op.pumps = true → exec (op.lead d) s = (.ok (), s₁) →
      d.platform.poll s₁.world = (batch, w) → exec (pump d) s₁ = (.error (.failed e), s') →
      Ends d (s₁.inWorld w) batch ds (.error (.failed e), s') →
      Step s ⟨some op, batch, ds, .error e, s'.events.current⟩ s'
  | pumped {op s₁ w batch ds s₂ a s'} : op.pumps = true → exec (op.lead d) s = (.ok (), s₁) →
      d.platform.poll s₁.world = (batch, w) → exec (pump d) s₁ = (.ok (), s₂) →
      Ends d (s₁.inWorld w) batch ds (.ok (), s₂) →
      exec (op.tail d) s₂ = (Except.mapError .failed a, s') →
      Step s ⟨some op, batch, ds, a, s'.events.current⟩ s'

/-- A window that was opened and then used, with its history. -/
inductive Course (config : Config) (world : W) : List (Turn W α β Raw) → Window W α β → Prop where
  | opened {ds s₁ s} : openWith d config world = (.ok (), s) →
      Ends d (fresh d config world) (openingBatch config) ds (.ok (), s₁) →
      exec (prepareForNextFrame d) s₁ = (.ok (), s) →
      Course config world [⟨none, openingBatch config, ds, .ok .done, s.events.current⟩] s
  | next {turns s turn s'} : Course config world turns s → Step d s turn s' →
      Course config world (turns ++ [turn]) s'

/-- A window that was opened and then used. An operation that never ends leads nowhere. -/
inductive Reached (config : Config) (world : W) : Window W α β → Prop where
  | opened {s} : openWith d config world = (.ok (), s) → Reached config world s
  | next {s} (op : Operation W) (a : Except WindowError (Answer α β)) {s'} :
      Reached config world s → exec (op.perform d) s = (Except.mapError .failed a, s') →
      Reached config world s'

/-- Operations one after the other, with their history. -/
inductive Steps : Window W α β → List (Turn W α β Raw) → Window W α β → Prop where
  | nil {s} : Steps s [] s
  | cons {s turn s' turns s''} : Step d s turn s' → Steps s' turns s'' →
      Steps s (turn :: turns) s''

variable {d} {config : Config} {world : W} {s s' : Window W α β}

omit [Narrowing α β] in
theorem wired_fresh (config : Config) (world : W) : (fresh d config world : Window W α β).Wired :=
  ⟨rfl, rfl⟩

omit [Narrowing α β] [Scalar β] in
theorem Wired.onInput (hs : s.Wired) (op : Operation W) :
    ({ s with input := op.onInput s.input } : Window W α β).Wired := by
  cases op <;> exact hs

omit [Scalar α] [Narrowing α β] [Scalar β] in
theorem Wired.lead (hs : s.Wired) {op : Operation W} {res : Except Halt Unit}
    (h : exec (op.lead d) s = (res, s')) : s'.Wired := by
  have hinput := op.lead_input d h
  unfold Wired
  rw [hinput]
  exact hs

theorem Wired.tail (hs : s.Wired) {op : Operation W} {res : Except Halt (Answer α β)}
    (h : exec (op.tail d) s = (res, s')) : s'.Wired := by
  have hinput := op.exec_tail_input d h
  unfold Wired
  rw [hinput]
  rcases res with _ | _
  · exact hs
  · exact hs.onInput op

/-- An error of an operation that ends is an error of the window. -/
theorem failed_of_mapError {r : Type} {a : Except WindowError r} {h : Halt}
    (ha : .error h = Except.mapError Halt.failed a) : ∃ e, h = .failed e ∧ a = .error e := by
  cases a with
  | error e =>
    cases ha
    exact ⟨e, rfl, rfl⟩
  | ok x => cases ha

theorem isOk_mapError {r : Type} (a : Except WindowError r) :
    (Except.mapError Halt.failed a).isOk = a.isOk := by
  cases a <;> rfl

theorem ok_of_mapError {r : Type} {a : Except WindowError r} {x : r}
    (ha : .ok x = Except.mapError Halt.failed a) : a = .ok x := by
  cases a with
  | error e => cases ha
  | ok y =>
    cases ha
    rfl

/-- Every run of an operation has a history. -/
theorem exists_step (hs : s.Wired) {op : Operation W} {a : Except WindowError (Answer α β)}
    (h : exec (op.perform d) s = (Except.mapError .failed a, s')) :
    ∃ batch ds, Step d s ⟨some op, batch, ds, a, s'.events.current⟩ s' := by
  rcases hop : op.pumps with _ | _
  · exact ⟨_, _, .alone hop h⟩
  · have hpumping := Operation.pumping hop h
    generalize hres : Except.mapError Halt.failed a = res at hpumping
    cases hpumping with
    | refused hlead =>
      obtain ⟨e, rfl, rfl⟩ := failed_of_mapError hres.symm
      exact ⟨_, _, .refused hop hlead⟩
    | @broken s₁ e s' hlead hpump =>
      obtain ⟨e, rfl, rfl⟩ := failed_of_mapError hres.symm
      rcases hpoll : d.platform.poll s₁.world with ⟨batch, w⟩
      obtain ⟨ds, hends⟩ := exec_pump_ends d s₁ (hs.lead hlead)
      rw [hpoll, hpump] at hends
      exact ⟨_, _, .interrupted hop hlead hpoll hpump hends⟩
    | @finished s₁ s₂ res s' hlead hpump htail =>
      subst hres
      rcases hpoll : d.platform.poll s₁.world with ⟨batch, w⟩
      obtain ⟨ds, hends⟩ := exec_pump_ends d s₁ (hs.lead hlead)
      rw [hpoll, hpump] at hends
      exact ⟨_, _, .pumped hop hlead hpoll hpump hends htail⟩

/-- A step is a run of its operation. -/
theorem Step.exec_eq {turn : Turn W α β Raw} (h : Step d s turn s') :
    ∃ op, turn.operation = some op ∧
      exec (op.perform d) s = (turn.answer.mapError .failed, s') := by
  cases h with
  | @alone op a s' hop h => exact ⟨op, rfl, h⟩
  | @refused op e s' hop h =>
    refine ⟨op, rfl, ?_⟩
    rw [Operation.perform_pumps d hop, exec_bind_of_error h]
    rfl
  | @interrupted op s₁ w batch ds e s' hop hlead hpoll hpump hends =>
    refine ⟨op, rfl, ?_⟩
    rw [Operation.perform_pumps d hop, exec_bind_of_ok hlead, exec_bind_of_error hpump]
    rfl
  | @pumped op s₁ w batch ds s₂ a s' hop hlead hpoll hpump hends htail =>
    refine ⟨op, rfl, ?_⟩
    rw [Operation.perform_pumps d hop, exec_bind_of_ok hlead, exec_bind_of_ok hpump, htail]

/-- The new events of a turn join the queue, and then the operation does to it what it is for. -/
theorem Step.events {turn : Turn W α β Raw} (h : Step d s turn s') :
    s'.events = turn.onEvents
      { s.events with waiting := s.events.waiting ++ Delivery.events turn.delivered } := by
  cases h with
  | @alone op a s' hop h =>
    rw [op.exec_tail_events d (Operation.tail_of_not_pumps d hop ▸ h), isOk_mapError,
      Delivery.events_nil, List.append_nil]
    cases a <;> rfl
  | @refused op e s' hop h =>
    rw [op.lead_events d h, Delivery.events_nil, List.append_nil]
    rfl
  | @interrupted op s₁ w batch ds e s' hop hlead hpoll hpump hends =>
    rw [← op.lead_events d hlead]
    exact hends.events
  | @pumped op s₁ w batch ds s₂ a s' hop hlead hpoll hpump hends htail =>
    have hevents := hends.events
    rw [inWorld_events, op.lead_events d hlead] at hevents
    rw [op.exec_tail_events d htail, ← hevents]
    cases a <;> rfl

theorem Step.slot {turn : Turn W α β Raw} (h : Step d s turn s') :
    turn.slot = s'.events.current := by
  cases h <;> rfl

/-- An operation that succeeds does so with its tail, after the new events have joined. -/
theorem Step.tail_ok {turn : Turn W α β Raw} (h : Step d s turn s') {a : Answer α β}
    (ha : turn.answer = .ok a) :
    ∃ op s₂, turn.operation = some op ∧
      s₂.events = { s.events with waiting := s.events.waiting ++ Delivery.events turn.delivered } ∧
      exec (op.tail d) s₂ = (.ok a, s') := by
  cases h with
  | @alone op a' s' hop h =>
    obtain rfl : a' = .ok a := ha
    exact ⟨op, s, rfl, by simp [Delivery.events], Operation.tail_of_not_pumps d hop ▸ h⟩
  | refused => cases ha
  | interrupted => cases ha
  | @pumped op s₁ w batch ds s₂ a' s' hop hlead hpoll hpump hends htail =>
    obtain rfl : a' = .ok a := ha
    have hevents := hends.events
    rw [inWorld_events, op.lead_events d hlead] at hevents
    exact ⟨op, s₂, rfl, hevents, htail⟩

/-! ## Courses -/

/-- Opening a window hands over the opening batch and prepares the first frame. -/
theorem openWith_ends (h : openWith d config world = (.ok (), s)) :
    config.flaw? = none ∧
      ∃ ds s₁, Ends d (fresh d config world) (openingBatch config) ds (.ok (), s₁) ∧
        exec (prepareForNextFrame d) s₁ = (.ok (), s) := by
  rcases hflaw : config.flaw? with _ | flaw
  · refine ⟨rfl, ?_⟩
    rcases hshow : config.showWindow with _ | _
    · have hopen : openWith d config world
          = exec (prepareForNextFrame d) (fresh d config world : Window W α β) := by
        simp only [openWith, hflaw, hshow]
        rfl
      refine ⟨[], _, ?_, hopen ▸ h⟩
      rw [openingBatch, hshow]
      exact .done .nil .nil
    · have hopen : openWith d config world
          = exec (resize d >>= fun _ => prepareForNextFrame d)
              (fresh d config world : Window W α β) := by
        simp only [openWith, hflaw, hshow]
        rfl
      rw [hopen] at h
      obtain ⟨⟨⟩, s₁, hresize, hprepare⟩ := exec_bind_ok h
      obtain ⟨ds, hends⟩ := exec_resize_ends d (fresh d config world) (wired_fresh config world)
      rw [hresize] at hends
      refine ⟨ds, s₁, ?_, hprepare⟩
      rw [openingBatch, hshow]
      exact hends
  · have hopen : (openWith d config world : _ × Window W α β)
        = (.error (.failed (.invalidConfig flaw)), fresh d config world) := by
      simp only [openWith, hflaw]
      rfl
    rw [hopen] at h
    cases h

theorem Wired.step {turn : Turn W α β Raw} (hs : s.Wired) (h : Step d s turn s') : s'.Wired := by
  cases h with
  | @alone op a s' hop h => exact hs.tail (op.tail_of_not_pumps d hop ▸ h)
  | refused hop h => exact hs.lead h
  | interrupted hop hlead hpoll hpump hends => exact hends.wired ((hs.lead hlead).inWorld _)
  | pumped hop hlead hpoll hpump hends htail =>
    exact (hends.wired ((hs.lead hlead).inWorld _)).tail htail

theorem wired_opening {ds : List (Delivery α Raw)} {s₁ : Window W α β}
    (hends : Ends d (fresh d config world) (openingBatch config) ds (.ok (), s₁))
    (h : exec (prepareForNextFrame d) s₁ = (.ok (), s)) : s.Wired := by
  have hinput : s.input = s₁.input :=
    (keeps_prepareForNextFrame d (f := Window.input) ⟨fun _ _ => rfl, fun _ _ => rfl⟩).eq h
  unfold Wired
  rw [hinput]
  exact hends.wired (wired_fresh config world)

theorem Course.wired {turns : List (Turn W α β Raw)} (h : Course d config world turns s) :
    s.Wired := by
  induction h with
  | opened _ hends hprepare => exact wired_opening hends hprepare
  | next _ hstep ih => exact ih.step hstep

/-- Every window that is reached has a course. -/
theorem Reached.course (h : Reached d config world s) :
    ∃ turns, Course d config world turns s := by
  induction h with
  | opened hopen =>
    obtain ⟨-, ds, s₁, hends, hprepare⟩ := openWith_ends hopen
    exact ⟨_, .opened hopen hends hprepare⟩
  | next op a _ hexec ih =>
    obtain ⟨turns, hturns⟩ := ih
    obtain ⟨batch, ds, hstep⟩ := exists_step hturns.wired hexec
    exact ⟨_, .next hturns hstep⟩

/-- A window that was opened has a course. -/
theorem exists_opened (h : openWith d config world = (.ok (), s)) :
    ∃ ds, Course d config world
      [⟨none, openingBatch config, ds, .ok .done, s.events.current⟩] s := by
  obtain ⟨-, ds, s₁, hends, hprepare⟩ := openWith_ends h
  exact ⟨ds, .opened h hends hprepare⟩

/-- A course goes on with any operation that ends. -/
theorem Course.exists_next {turns : List (Turn W α β Raw)} (h : Course d config world turns s)
    (op : Operation W) (a : Except WindowError (Answer α β))
    (hexec : exec (op.perform d) s = (Except.mapError .failed a, s')) :
    ∃ batch ds, Course d config world
      (turns ++ [⟨some op, batch, ds, a, s'.events.current⟩]) s' := by
  obtain ⟨batch, ds, hstep⟩ := exists_step h.wired hexec
  exact ⟨batch, ds, .next h hstep⟩

theorem Course.reached {turns : List (Turn W α β Raw)} (h : Course d config world turns s) :
    Reached d config world s := by
  induction h with
  | opened hopen => exact .opened hopen
  | next _ hstep ih =>
    obtain ⟨op, -, hexec⟩ := hstep.exec_eq
    exact .next op _ ih hexec

theorem Reached.wired (h : Reached d config world s) : s.Wired := by
  obtain ⟨turns, hturns⟩ := h.course
  exact hturns.wired

/-! ## Stretches of a course -/

/-- Every turn but the opening is a step that goes on from the course before it. -/
theorem Course.split {turns before after : List (Turn W α β Raw)} {turn : Turn W α β Raw}
    (h : Course d config world turns s) (hturns : turns = before ++ turn :: after)
    {op : Operation W} (hop : turn.operation = some op) :
    ∃ s₁ s₂, Course d config world before s₁ ∧ Step d s₁ turn s₂ := by
  induction h generalizing after with
  | opened =>
    rcases before with _ | ⟨first, before⟩
    · obtain ⟨rfl, -⟩ := List.cons.inj hturns
      cases hop
    · obtain ⟨-, hrest⟩ := List.cons.inj hturns
      simp at hrest
  | @next turns s last s' hcourse hstep ih =>
    rcases List.eq_nil_or_concat after with rfl | ⟨after, other, rfl⟩
    · obtain ⟨rfl, hlast⟩ := List.append_inj' hturns rfl
      obtain ⟨rfl, -⟩ := List.cons.inj hlast
      exact ⟨s, s', hcourse, hstep⟩
    · rw [List.concat_eq_append, ← List.cons_append, ← List.append_assoc] at hturns
      obtain ⟨hturns, -⟩ := List.append_inj' hturns rfl
      exact ih hturns

theorem Course.append {earlier later : List (Turn W α β Raw)} (h : Course d config world earlier s)
    (h' : Steps d s later s') : Course d config world (earlier ++ later) s' := by
  induction h' generalizing earlier with
  | nil =>
    rw [List.append_nil]
    exact h
  | cons hstep _ ih =>
    have hrest := ih (h.next hstep)
    rwa [List.append_assoc] at hrest

end Window

end WindowHost
