import WindowHost.Proofs.Record

/-!
# Recording changes nothing

With recorded devices a window does what it does with the devices themselves. `Window.forget` drops
the record, and `Mirrors` says that an operation on recorded devices does the same as one on the
devices, but for the record. So every window that can be reached has a record of how it came about
(`Reached.exists_recorded`), and what holds after every recorded course holds of it.
-/

namespace WindowHost

variable {W α β Raw Frame r t : Type}

namespace Window

/-- The window without its record. -/
def forget (s : RecordedWindow W α β Raw Frame) : Window W α β :=
  { s with world := s.world.world }

/-- The first operation does with a record what the second one does without. -/
def Mirrors (m' : WindowM (Recorded W α Raw Frame) α β r) (m : WindowM W α β r) : Prop :=
  ∀ s, exec m s.forget = ((exec m' s).1, (exec m' s).2.forget)

/-! ## Rules -/

section Rules

variable {m' : WindowM (Recorded W α Raw Frame) α β r} {m : WindowM W α β r}

theorem mirrors_pure (x : r) :
    Mirrors (pure x : WindowM (Recorded W α Raw Frame) α β r) (pure x) := fun _ => rfl

theorem mirrors_throw (h : Halt) :
    Mirrors (throw h : WindowM (Recorded W α Raw Frame) α β r) (throw h) := fun _ => rfl

theorem Mirrors.bind {n' : r → WindowM (Recorded W α Raw Frame) α β t} {n : r → WindowM W α β t}
    (hm : Mirrors m' m) (hn : ∀ x, Mirrors (n' x) (n x)) : Mirrors (m' >>= n') (m >>= n) := by
  intro s
  rw [exec_bind, exec_bind, hm s]
  rcases exec m' s with ⟨_ | x, s'⟩
  · rfl
  · exact hn x s'

theorem Mirrors.map (hm : Mirrors m' m) (g : r → t) : Mirrors (g <$> m') (g <$> m) := by
  intro s
  rw [exec_map, exec_map, hm s]

theorem mirrors_get_bind {n' : RecordedWindow W α β Raw Frame → WindowM _ α β t}
    {n : Window W α β → WindowM W α β t} (h : ∀ s, Mirrors (n' s) (n s.forget)) :
    Mirrors (get >>= n') (get >>= n) := fun s => h s s

theorem mirrors_set {s' : RecordedWindow W α β Raw Frame} {s : Window W α β} (h : s = s'.forget) :
    Mirrors (set s' : WindowM (Recorded W α Raw Frame) α β PUnit)
      (set s : WindowM W α β PUnit) :=
  fun _ => congrArg (Prod.mk _) h

theorem mirrors_modify {g' : RecordedWindow W α β Raw Frame → RecordedWindow W α β Raw Frame}
    {g : Window W α β → Window W α β} (h : ∀ s, g s.forget = (g' s).forget) :
    Mirrors (modify g' : WindowM _ α β PUnit) (modify g) :=
  fun s => congrArg (Prod.mk _) (h s)

theorem mirrors_modifyGet
    {g' : RecordedWindow W α β Raw Frame → r × RecordedWindow W α β Raw Frame}
    {g : Window W α β → r × Window W α β} (h : ∀ s, g s.forget = ((g' s).1, (g' s).2.forget)) :
    Mirrors (modifyGet g' : WindowM _ α β r) (modifyGet g) := by
  intro s
  show (Except.ok (g s.forget).1, (g s.forget).2) = (Except.ok (g' s).1, (g' s).2.forget)
  rw [h s]

theorem mirrors_act {g' : Recorded W α Raw Frame → Recorded W α Raw Frame} {g : W → W}
    (h : ∀ w, g w.world = (g' w).world) :
    Mirrors (act g' : WindowM _ α β Unit) (act g) :=
  mirrors_modify fun s => congrArg s.forget.inWorld (h s.world)

theorem mirrors_ask {g' : Recorded W α Raw Frame → r × Recorded W α Raw Frame} {g : W → r × W}
    (h : ∀ w, g w.world = ((g' w).1, (g' w).2.world)) :
    Mirrors (ask g' : WindowM _ α β r) (ask g) :=
  mirrors_modifyGet fun s => by
    show ((g s.world.world).1, s.forget.inWorld (g s.world.world).2) = _
    rw [h s.world]
    rfl

theorem mirrors_attempt
    {g' : Recorded W α Raw Frame → Except BackendError r × Recorded W α Raw Frame}
    {g : W → Except BackendError r × W} (h : ∀ w, g w.world = ((g' w).1, (g' w).2.world)) :
    Mirrors (attempt g' : WindowM _ α β r) (attempt g) := by
  refine (mirrors_ask h).bind fun outcome => ?_
  cases outcome with
  | error e => exact mirrors_throw _
  | ok x => exact mirrors_pure x

theorem Mirrors.ite {p : Prop} [Decidable p] {n' : WindowM (Recorded W α Raw Frame) α β r}
    {n : WindowM W α β r} (hm : Mirrors m' m) (hn : Mirrors n' n) :
    Mirrors (if p then m' else n') (if p then m else n) := by
  split
  · exact hm
  · exact hn

theorem mirrors_forM {γ : Type} {n' : γ → WindowM (Recorded W α Raw Frame) α β Unit}
    {n : γ → WindowM W α β Unit} (h : ∀ x, Mirrors (n' x) (n x)) (xs : List γ) :
    Mirrors (xs.forM n') (xs.forM n) := by
  induction xs with
  | nil => exact mirrors_pure ()
  | cons x xs ih => exact (h x).bind fun _ => ih

theorem mirrors_requireVisible (operation : SurfaceOperation) :
    Mirrors (requireVisible operation : WindowM (Recorded W α Raw Frame) α β Unit)
      (requireVisible operation) :=
  mirrors_get_bind fun _ => (mirrors_pure _).ite (mirrors_throw _)

end Rules

variable (d : Devices W α Raw Frame)

/-! ## Pumping -/

section Pump

theorem mirrors_awaitSize (patience : Nat) :
    Mirrors (awaitSize d.recorded patience : WindowM _ α β _) (awaitSize d patience) := by
  induction patience with
  | zero =>
    exact (mirrors_ask fun _ => rfl).bind fun size => (mirrors_throw _).ite (mirrors_pure _)
  | succ patience ih =>
    exact (mirrors_ask fun _ => rfl).bind fun size => Mirrors.ite
      ((mirrors_ask fun _ => rfl).bind fun batch => ih.bind fun later => mirrors_pure _)
      (mirrors_pure _)

variable {follow' : List (Report α Raw) → WindowM (Recorded W α Raw Frame) α β Unit}
  {follow : List (Report α Raw) → WindowM W α β Unit}

theorem mirrors_settleSize (patience : Nat) (hfollow : ∀ rs, Mirrors (follow' rs) (follow rs)) :
    Mirrors (settleSize d.recorded patience follow') (settleSize d patience follow) :=
  (mirrors_awaitSize d patience).bind fun settled =>
    (mirrors_attempt fun _ => rfl).bind fun _ =>
      (mirrors_modify fun _ => rfl).bind fun _ => hfollow settled.2

variable [Scalar α] [Narrowing α β]

/-- What is left of handing over a report once the widgets have seen its raw event. -/
theorem mirrors_occurrence (patience : Nat) (hfollow : ∀ rs, Mirrors (follow' rs) (follow rs))
    (occurrence : Option (Occurrence α)) :
    Mirrors
      (match occurrence with
        | some (.resized _) => settleSize d.recorded patience follow'
        | some occurrence => modify (·.receive occurrence)
        | none => pure () : WindowM (Recorded W α Raw Frame) α β Unit)
      (match occurrence with
        | some (.resized _) => settleSize d patience follow
        | some occurrence => modify (·.receive occurrence)
        | none => pure ()) := by
  rcases occurrence with _ | _ | _ | _ | _ | size
  · exact mirrors_pure ()
  · exact mirrors_modify fun _ => rfl
  · exact mirrors_modify fun _ => rfl
  · exact mirrors_modify fun _ => rfl
  · exact mirrors_modify fun _ => rfl
  · exact mirrors_settleSize d patience hfollow

theorem mirrors_handle (patience : Nat) (hfollow : ∀ rs, Mirrors (follow' rs) (follow rs))
    (report : Report α Raw) :
    Mirrors (handle d.recorded patience follow' report) (handle d patience follow report) := by
  obtain ⟨occurrence, raw⟩ := report
  have hrest := mirrors_occurrence d patience hfollow occurrence
  cases raw with
  | none => exact hrest
  | some raw => exact (mirrors_act fun _ => rfl).bind fun _ => hrest

theorem mirrors_dispatch (patience : Nat) (reports : List (Report α Raw)) :
    Mirrors (dispatch d.recorded patience reports : WindowM _ α β _)
      (dispatch d patience reports) := by
  -- what a report defers is handed over with less patience
  induction patience generalizing reports with
  | zero => exact mirrors_forM (mirrors_handle d 0 fun _ => mirrors_pure ()) reports
  | succ patience ih => exact mirrors_forM (mirrors_handle d (patience + 1) ih) reports

theorem mirrors_pump : Mirrors (pump d.recorded : WindowM _ α β _) (pump d) :=
  (mirrors_ask fun _ => rfl).bind fun reports =>
    mirrors_get_bind fun _ => mirrors_dispatch d _ reports

theorem mirrors_resize : Mirrors (resize d.recorded : WindowM _ α β _) (resize d) :=
  mirrors_get_bind fun _ => mirrors_settleSize d _ (mirrors_dispatch d _)

end Pump

/-! ## Frames -/

section Frames

theorem mirrors_prepareForNextFrame :
    Mirrors (prepareForNextFrame d.recorded : WindowM _ α β _) (prepareForNextFrame d) :=
  (mirrors_act fun _ => rfl).bind fun _ => (mirrors_act fun _ => rfl).bind fun _ =>
    mirrors_modify fun _ => rfl

theorem mirrors_drawFrame :
    Mirrors (drawFrame d.recorded : WindowM _ α β _) (drawFrame d) :=
  (mirrors_ask fun _ => rfl).bind fun _ => (mirrors_attempt fun _ => rfl).bind fun _ =>
    mirrors_modify fun _ => rfl

theorem mirrors_ensureDrawn :
    Mirrors (ensureDrawn d.recorded : WindowM _ α β _) (ensureDrawn d) :=
  mirrors_get_bind fun _ => (mirrors_pure _).ite (mirrors_drawFrame d)

theorem mirrors_finishRead :
    Mirrors (finishRead d.recorded : WindowM _ α β _) (finishRead d) :=
  mirrors_get_bind fun _ => (mirrors_pure _).ite (mirrors_prepareForNextFrame d)

theorem mirrors_settleCursor :
    Mirrors (settleCursor d.recorded : WindowM _ α β _) (settleCursor d) := by
  refine mirrors_get_bind fun s => (mirrors_set ?_).bind fun _ =>
    (mirrors_act fun _ => rfl).ite (mirrors_pure _)
  let next := Cursor.verdict s.cursor.request (signal d s.world.world)
  obtain ⟨-, happly⟩ := adds_apply (d := d) s.cursor.applied next s.world
  let settled : Window W α β := { s.forget with cursor := { s.cursor with applied := next } }
  exact congrArg settled.inWorld happly.symm

variable [Scalar α]

theorem pace_recorded (p : Pacing.Pacer α) (limit : UInt32) (w : Recorded W α Raw Frame) :
    p.pace d.clock limit w.world =
      ((p.pace d.recorded.clock limit w).1, (p.pace d.recorded.clock limit w).2.1,
        (p.pace d.recorded.clock limit w).2.2.world) := by
  unfold Pacing.Pacer.pace
  dsimp only [Devices.recorded]
  split <;> rfl

theorem mirrors_pace : Mirrors (pace d.recorded : WindowM _ α β _) (pace d) :=
  mirrors_modify fun s => by
    rw [show s.forget.pacer.pace d.clock s.forget.config.fpsLimit s.forget.world = _ from
      pace_recorded d s.pacer s.config.fpsLimit s.world]
    rfl

theorem mirrors_countFrame : Mirrors (countFrame d.recorded : WindowM _ α β _) (countFrame d) := by
  refine mirrors_get_bind fun s => ?_
  have hrate : s.forget.rate = s.rate := rfl
  have hnow : d.recorded.clock.now s.world = d.clock.now s.forget.world := rfl
  rw [hrate, hnow]
  rcases (s.rate.tick (d.clock.now s.forget.world) : Option α × _) with ⟨_ | average, rate⟩
  · exact (mirrors_set rfl).bind fun _ => mirrors_pure _
  · exact (mirrors_set rfl).bind fun _ => mirrors_act fun _ => rfl

variable [Narrowing α β]

theorem mirrors_showFrame : Mirrors (showFrame d.recorded : WindowM _ α β _) (showFrame d) :=
  (mirrors_requireVisible _).bind fun _ => (mirrors_ensureDrawn d).bind fun _ =>
    (mirrors_attempt fun _ => rfl).bind fun _ => (mirrors_pump d).bind fun _ =>
      (mirrors_pace d).bind fun _ => (mirrors_countFrame d).bind fun _ =>
        mirrors_get_bind fun _ => (mirrors_act fun _ => rfl).bind fun _ =>
          (mirrors_prepareForNextFrame d).bind fun _ => mirrors_settleCursor d

end Frames

end Window

open Window

/-- The same operation in a world with a record, which it leaves alone. -/
def Operation.recorded : Operation W → Operation (Recorded W α Raw Frame)
  | .showFrame => .showFrame
  | .drawFrame => .drawFrame
  | .dumpImage => .dumpImage
  | .writeImage path => .writeImage path
  | .copyDepth target => .copyDepth target
  | .requestStop stop => .requestStop stop
  | .isRunning => .isRunning
  | .isPressed name => .isPressed name
  | .isAnyPressed names => .isAnyPressed names
  | .cursorPosition => .cursorPosition
  | .takeScrollDelta => .takeScrollDelta
  | .pollEvents filter => .pollEvents filter
  | .pollOneEvent filter => .pollOneEvent filter
  | .currentEvent => .currentEvent
  | .setCurrentEvent e => .setCurrentEvent e
  | .setCursor index force => .setCursor index force
  | .setCursorRequest request => .setCursorRequest request
  | .appliedCursor => .appliedCursor
  | .guiWantsMouse => .guiWantsMouse
  | .guiWantsKeyboard => .guiWantsKeyboard
  | .shape => .shape
  | .outside g => .outside fun w => { w with world := g w.world }

section Operation

variable [Scalar α] [Narrowing α β] [Scalar β] {d : Devices W α Raw Frame}

/-- An operation does the same with a record and without. -/
theorem Operation.mirrors_perform (op : Operation W) :
    Mirrors (op.recorded.perform d.recorded : WindowM (Recorded W α Raw Frame) α β _)
      (op.perform d) := by
  have hread {r t : Type} {g' : Recorded W α Raw Frame → Except BackendError r × _}
      {g : W → Except BackendError r × W} (h : ∀ w, g w.world = ((g' w).1, (g' w).2.world))
      (k : r → t) : Mirrors (readFrame d.recorded g' k : WindowM _ α β t) (readFrame d g k) :=
    (mirrors_ensureDrawn d).bind fun _ => (mirrors_attempt h).bind fun _ =>
      (mirrors_finishRead d).bind fun _ => mirrors_pure _
  cases op with
  | showFrame => exact (mirrors_showFrame d).bind fun _ => mirrors_pure _
  | drawFrame => exact (mirrors_drawFrame d).bind fun _ => mirrors_pure _
  | dumpImage =>
    rw [recorded, perform_dumpImage, perform_dumpImage]
    exact hread (fun _ => rfl) _
  | writeImage path =>
    rw [recorded, perform_writeImage, perform_writeImage]
    exact hread (fun _ => rfl) _
  | copyDepth target =>
    rw [recorded, perform_copyDepth, perform_copyDepth]
    exact hread (fun _ => rfl) _
  | requestStop stop =>
    exact (mirrors_get_bind fun _ => (mirrors_act fun _ => rfl).ite (mirrors_pure _)).bind
      fun _ => mirrors_pure _
  | isRunning | isPressed | isAnyPressed | appliedCursor | shape =>
    exact mirrors_get_bind fun _ => mirrors_pure _
  | cursorPosition | currentEvent | guiWantsMouse | guiWantsKeyboard =>
    refine Mirrors.map ?_ _
    exact (mirrors_requireVisible _).bind fun _ => mirrors_get_bind fun _ => mirrors_pure _
  | takeScrollDelta =>
    exact ((mirrors_requireVisible _).bind fun _ => mirrors_modifyGet fun _ => rfl).map _
  | pollEvents filter | pollOneEvent filter =>
    exact ((mirrors_requireVisible _).bind fun _ => (mirrors_pump d).bind fun _ =>
      mirrors_modifyGet fun _ => rfl).map _
  | setCurrentEvent e =>
    exact ((mirrors_requireVisible _).bind fun _ => mirrors_modify fun _ => rfl).bind
      fun _ => mirrors_pure _
  | setCursor index force =>
    refine ((mirrors_requireVisible _).bind fun _ => ?_).bind fun _ => mirrors_pure _
    cases Cursor.Request.ofIndex index force with
    | error e => exact mirrors_throw _
    | ok request => exact mirrors_modify fun _ => rfl
  | setCursorRequest request =>
    exact ((mirrors_requireVisible _).bind fun _ => mirrors_modify fun _ => rfl).bind
      fun _ => mirrors_pure _
  | outside g => exact (mirrors_act fun _ => rfl).bind fun _ => mirrors_pure _

omit [Scalar α] [Narrowing α β] [Scalar β] in
theorem Operation.spares_recorded (op : Operation W) :
    (op.recorded : Operation (Recorded W α Raw Frame)).Spares Recorded.calls := by
  cases op with
  | outside => exact fun _ => rfl
  | _ => trivial

omit [Scalar β] in
/-- What opening a window does to the window it starts from. -/
theorem mirrors_opening (config : Config) :
    Mirrors
      (do
        if let some flaw := config.flaw? then
          fail (.invalidConfig flaw)
        if config.showWindow then
          resize d.recorded
        prepareForNextFrame d.recorded : WindowM (Recorded W α Raw Frame) α β Unit)
      (do
        if let some flaw := config.flaw? then
          fail (.invalidConfig flaw)
        if config.showWindow then
          resize d
        prepareForNextFrame d) := by
  have hsettled : Mirrors
      (do
        if config.showWindow then
          resize d.recorded
        prepareForNextFrame d.recorded : WindowM (Recorded W α Raw Frame) α β Unit)
      (do
        if config.showWindow then
          resize d
        prepareForNextFrame d) :=
    ((mirrors_resize d).bind fun _ => mirrors_prepareForNextFrame d).ite
      (mirrors_prepareForNextFrame d)
  cases config.flaw? with
  | some flaw => exact (mirrors_throw _).bind fun _ => hsettled
  | none => exact hsettled

theorem openWith_recorded (config : Config) (world : W) (calls : List (Call α Raw Frame)) :
    (openWith d config world : _ × Window W α β) =
      ((openWith d.recorded config ⟨world, calls⟩ : _ × RecordedWindow W α β Raw Frame).1,
        (openWith d.recorded config ⟨world, calls⟩ :
          _ × RecordedWindow W α β Raw Frame).2.forget) :=
  mirrors_opening config (fresh d.recorded config ⟨world, calls⟩)

/-- Every window that can be reached has a record of how it came about: recorded devices reach the
same window in a course in which nothing from outside touches the record. -/
theorem Window.Reached.exists_recorded {config : Config} {world : W} {s : Window W α β}
    (h : Reached d config world s) :
    ∃ turns s', Course d.recorded config ⟨world, []⟩ turns s' ∧ s'.forget = s ∧
      ∀ turn ∈ turns, turn.Spares Recorded.calls := by
  induction h with
  | opened hopen =>
    rw [openWith_recorded config world []] at hopen
    obtain ⟨hres, hs⟩ := Prod.mk.inj hopen
    obtain ⟨ds, hcourse⟩ := exists_opened (d := d.recorded) (Prod.ext hres rfl)
    exact ⟨_, _, hcourse, hs, spares_opened⟩
  | next op a _ hexec ih =>
    obtain ⟨turns, s₁, hcourse, rfl, hspares⟩ := ih
    rw [op.mirrors_perform s₁] at hexec
    obtain ⟨hres, hs⟩ := Prod.mk.inj hexec
    obtain ⟨batch, ds, hnext⟩ := hcourse.exists_next op.recorded a (Prod.ext hres rfl)
    exact ⟨_, _, hnext, hs, spares_next hspares op.recorded op.spares_recorded⟩

end Operation

end WindowHost
