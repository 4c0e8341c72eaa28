import WindowHost.Proofs.Keeps

/-!
# The order of delivery

What pumping does, without its recursion. `Flatten` puts the reports of a batch in order, where
those that a change of size has deferred come directly after it; `Path` hands reports over one by
one; and `Ends` joins the two into all that pumping can do. `exec_dispatch_ends` is the one
induction over the nested dispatch, and everything else about pumping follows from it. A pump that
gives up a wait does so rightly if its devices are `Patient`.
-/

namespace WindowHost

variable {W α β Raw Frame : Type}

/-! ## Flattening -/

/-- Whether a report tells of a new size of the framebuffer. -/
def Report.isResize (r : Report α Raw) : Bool :=
  match r.occurrence with
  | some (.resized _) => true
  | _ => false

/-- The report of a new size that stands for the opening of a visible window; the widgets do not see
it. -/
def Report.opening : Report α Raw := ⟨some (.resized default), none⟩

/-- How a change of size went: the sizes without an area, each with the batch that the wait after it
has brought, and the size that was read last. -/
structure Settling (α Raw : Type) where
  waits : List (Extent × List (Report α Raw))
  size : Extent

/-- The reports of all waits, in their order. -/
def Settling.deferred (g : Settling α Raw) : List (Report α Raw) := g.waits.flatMap (·.2)

/-- A report that is handed over, for a new size together with how it was settled. -/
inductive Delivery (α Raw : Type) where
  | plain (r : Report α Raw)
  | resized (r : Report α Raw) (g : Settling α Raw)

/-- The report that is handed over. -/
def Delivery.report : Delivery α Raw → Report α Raw
  | .plain r => r
  | .resized r _ => r

/-- The reports that the platform gives out while the delivery waits for a size. -/
def Delivery.deferred : Delivery α Raw → List (Report α Raw)
  | .plain _ => []
  | .resized _ g => g.deferred

/-- Each report in order, and directly after a new size the flattening of all that was deferred. -/
inductive Flatten : List (Report α Raw) → List (Delivery α Raw) → Prop where
  | nil : Flatten [] []
  | plain {r rs ds} : r.isResize = false → Flatten rs ds → Flatten (r :: rs) (.plain r :: ds)
  | resized {r g rs inner outer} : r.isResize = true → Flatten g.deferred inner →
      Flatten rs outer → Flatten (r :: rs) (.resized r g :: (inner ++ outer))

/-- Every batch can be flattened, with no wait at all if need be. -/
theorem Flatten.total (reports : List (Report α Raw)) : ∃ ds, Flatten reports ds := by
  induction reports with
  | nil => exact ⟨[], .nil⟩
  | cons r rs ih =>
    obtain ⟨ds, hds⟩ := ih
    rcases hr : r.isResize with _ | _
    · exact ⟨_, .plain hr hds⟩
    · exact ⟨_, .resized (g := ⟨[], default⟩) hr .nil hds⟩

/-! ## Handing over -/

/-- Asking the platform for sizes, with a wait after each size without an area but the last. -/
inductive Waits (p : Platform W α Raw) : W → Settling α Raw → W → Prop where
  | last {w w' size} : p.framebufferSize w = (size, w') → Waits p w ⟨[], size⟩ w'
  | again {w w₁ w₂ w₃ size batch g} : p.framebufferSize w = (size, w₁) → size.isEmpty = true →
      p.wait w₁ = (batch, w₂) → Waits p w₂ g w₃ → Waits p w ⟨(size, batch) :: g.waits, g.size⟩ w₃

/-- The event that an occurrence puts into the queue: a button that goes down or up by its name, and
nothing for one that repeats. -/
def Occurrence.event? : Occurrence α → Option Event
  | .key b .press | .mouse b .press => some ⟨.press, b.label⟩
  | .key b .release | .mouse b .release => some ⟨.release, b.label⟩
  | _ => none

/-- Input after an occurrence, where `size` turns the place of the cursor into fractions. -/
def Occurrence.enter [Scalar α] [Narrowing α β] {ι : Type} (size : Extent) (i : Input α β ι) :
    Occurrence α → Input α β ι
  | .key b action | .mouse b action => i.record b action
  | .cursorMoved x y => i.moveCursor x y size
  | .scrolled dx dy => i.addScroll dx dy
  | .resized _ => i

section Listeners

variable [Scalar α] [Narrowing α β] {ι : Type} (size : Extent) (i : Input α β ι)

@[simp] theorem Input.moveCursor_keyListeners (x y : α) :
    (i.moveCursor x y size).keyListeners = i.keyListeners := by
  unfold moveCursor
  split <;> rfl

@[simp] theorem Input.moveCursor_mouseListeners (x y : α) :
    (i.moveCursor x y size).mouseListeners = i.mouseListeners := by
  unfold moveCursor
  split <;> rfl

@[simp] theorem Occurrence.enter_keyListeners (o : Occurrence α) :
    (o.enter size i).keyListeners = i.keyListeners := by
  cases o with
  | cursorMoved x y => exact i.moveCursor_keyListeners size x y
  | _ => rfl

@[simp] theorem Occurrence.enter_mouseListeners (o : Occurrence α) :
    (o.enter size i).mouseListeners = i.mouseListeners := by
  cases o with
  | cursorMoved x y => exact i.moveCursor_mouseListeners size x y
  | _ => rfl

end Listeners

/-- The raw form of a report goes to the widgets. -/
def Report.forward (gui : Gui W Raw Frame) (r : Report α Raw) (w : W) : W :=
  match r.raw with
  | some raw => gui.onRawEvent raw w
  | none => w

/-- The event that a report puts into the queue. -/
def Report.event? (r : Report α Raw) : Option Event := r.occurrence.bind Occurrence.event?

theorem Report.event?_of_isResize {r : Report α Raw} (hr : r.isResize = true) :
    r.event? = none := by
  rcases r with ⟨_ | o, raw⟩
  · cases hr
  · cases o with
    | resized size => rfl
    | _ => cases hr

/-- The events that deliveries put into the queue. -/
def Delivery.events (ds : List (Delivery α Raw)) : List Event :=
  ds.filterMap fun delivery => delivery.report.event?

theorem Delivery.events_nil : Delivery.events ([] : List (Delivery α Raw)) = [] := rfl

/-! ## Patience -/

/-- However often one waits, no size with an area comes. -/
def Hopeless (p : Platform W α Raw) (w : W) : Prop :=
  ∀ g w', Waits p w g w' → g.size.isEmpty = true

theorem hopeless_of_steady {p : Platform W α Raw} {P : W → Prop}
    (hread : ∀ w, P w → (p.framebufferSize w).1.isEmpty = true ∧ P (p.framebufferSize w).2)
    (hwait : ∀ w, P w → P (p.wait w).2) {w : W} (hw : P w) : Hopeless p w := by
  intro g w' h
  induction h with
  | @last w w' size hlast =>
    have hempty := (hread w hw).1
    rw [hlast] at hempty
    exact hempty
  | @again w w₁ w₂ w₃ size batch g hagain _ hnext _ ih =>
    have hafter := hwait _ (hread w hw).2
    rw [hagain, hnext] at hafter
    exact ih hafter

/-- Devices whose platform knows how often a wait can help: each wait for a size costs patience,
nothing gives it back, and without any left waiting is hopeless. -/
structure Patient (d : Devices W α Raw Frame) : Prop where
  read : ∀ w, d.platform.patience (d.platform.framebufferSize w).2 ≤ d.platform.patience w
  wait : ∀ w, (d.platform.framebufferSize w).1.isEmpty = true →
    d.platform.patience (d.platform.wait (d.platform.framebufferSize w).2).2 ≤
      d.platform.patience w - 1
  forward : ∀ raw w, d.platform.patience (d.gui.onRawEvent raw w) ≤ d.platform.patience w
  resize : ∀ size w, d.platform.patience (d.renderer.resize size w).2 ≤ d.platform.patience w
  last : ∀ w, d.platform.patience w = 0 → (d.platform.framebufferSize w).1.isEmpty = true →
    Hopeless d.platform w

theorem Patient.report {d : Devices W α Raw Frame} (hd : Patient d) (r : Report α Raw) (w : W) :
    d.platform.patience (r.forward d.gui w) ≤ d.platform.patience w := by
  rcases r with ⟨o, _ | raw⟩
  · exact Nat.le_refl _
  · exact hd.forward raw w

theorem Patient.waits {d : Devices W α Raw Frame} (hd : Patient d) {w w' : W} {g : Settling α Raw}
    (h : Waits d.platform w g w') :
    d.platform.patience w' ≤ d.platform.patience w - g.waits.length := by
  induction h with
  | @last w w' size hread =>
    have hle := hd.read w
    rwa [hread] at hle
  | @again w w₁ w₂ w₃ size batch g hread hsize hwait _ ih =>
    have hle := hd.wait w
    rw [hread, hwait] at hle
    have hcost : d.platform.patience w₂ ≤ d.platform.patience w - 1 := hle hsize
    rw [List.length_cons]
    omega

/-- A wait that has used up all patience without a size was hopeless from its start. -/
theorem Patient.hopeless {d : Devices W α Raw Frame} (hd : Patient d) {w w' : W}
    {g : Settling α Raw} (h : Waits d.platform w g w') (hg : g.size.isEmpty = true)
    (hn : d.platform.patience w ≤ g.waits.length) : Hopeless d.platform w := by
  induction h with
  | @last w w' size hread =>
    refine hd.last w (Nat.le_zero.1 hn) ?_
    rw [hread]
    exact hg
  | @again w w₁ w₂ w₃ size batch g hread hsize hwait _ ih =>
    have hle := hd.wait w
    rw [hread, hwait] at hle
    have hcost : d.platform.patience w₂ ≤ d.platform.patience w - 1 := hle hsize
    rw [List.length_cons] at hn
    have hrest : Hopeless d.platform w₂ := ih hg (by omega)
    -- any other settling starts with the same reading and the same wait
    intro g' w' h'
    cases h' with
    | last hread' =>
      rw [hread] at hread'
      cases hread'
      exact hsize
    | @again _ _ _ _ _ _ g' hread' _ hwait' h' =>
      rw [hread] at hread'
      cases hread'
      rw [hwait] at hwait'
      cases hwait'
      exact hrest g' w' h'

namespace Window

variable [Scalar α] [Narrowing α β]

/-- The native form of a report goes to the input and to the event queue. -/
def land (size : Extent) (s : Window W α β) (r : Report α Raw) : Window W α β :=
  { s with
    input := r.occurrence.elim s.input (Occurrence.enter size s.input)
    events := r.event?.toList.foldl Event.Queue.push s.events }

/-- A window with another size in its settings. -/
def withSize (s : Window W α β) (size : Extent) : Window W α β :=
  { s with config := { s.config with size } }

/-- Both listeners of the input are the event queue. -/
def Wired (s : Window W α β) : Prop :=
  s.input.keyListeners = [()] ∧ s.input.mouseListeners = [()]

variable (d : Devices W α Raw Frame)

/-- Reports are handed over one after the other, the raw form of each before its native form.
`size` is what the renderer was last brought to. -/
inductive Path : Extent → Window W α β → List (Delivery α Raw) → Window W α β → Prop where
  | nil {size s} : Path size s [] s
  | plain {size s s' r ds} : r.isResize = false →
      Path size ((s.inWorld (r.forward d.gui s.world)).land size r) ds s' →
      Path size s (.plain r :: ds) s'
  | resized {size s s' r g w₁ w₂ ds} : r.isResize = true →
      Waits d.platform (r.forward d.gui s.world) g w₁ → g.size.isEmpty = false →
      d.renderer.resize g.size w₁ = (.ok (), w₂) →
      Path g.size ((s.inWorld w₂).withSize g.size) ds s' →
      Path size s (.resized r g :: ds) s'

/-- All that handing over a batch can do: the whole of its flattening is delivered, or a part up to
a new size that the renderer refuses or that stays without an area, in spite of all patience. -/
inductive Ends (s : Window W α β) (batch : List (Report α Raw)) :
    List (Delivery α Raw) → Except Halt Unit × Window W α β → Prop where
  | done {ds s'} : Flatten batch ds → Path d s.config.size s ds s' → Ends s batch ds (.ok (), s')
  | refused {ds s₁ r g rest w₁ w₂ e} : Flatten batch (ds ++ .resized r g :: rest) →
      Path d s.config.size s ds s₁ → Waits d.platform (r.forward d.gui s₁.world) g w₁ →
      g.size.isEmpty = false → d.renderer.resize g.size w₁ = (.error e, w₂) →
      Ends s batch ds (.error (.failed (.backend e)), s₁.inWorld w₂)
  | stalled {ds s₁ r g rest w₁} : Flatten batch (ds ++ .resized r g :: rest) →
      Path d s.config.size s ds s₁ → Waits d.platform (r.forward d.gui s₁.world) g w₁ →
      g.size.isEmpty = true → (Patient d → Hopeless d.platform (r.forward d.gui s₁.world)) →
      Ends s batch ds (.error .stalled, s₁.inWorld w₁)

/-! ## Paths -/

omit [Scalar α] [Narrowing α β] in
theorem Wired.inWorld {s : Window W α β} (hs : s.Wired) (w : W) : (s.inWorld w).Wired := hs

theorem Wired.land {s : Window W α β} (hs : s.Wired) (size : Extent) (r : Report α Raw) :
    (s.land size r).Wired := by
  rcases r with ⟨_ | o, raw⟩
  · exact hs
  · obtain ⟨hk, hm⟩ := hs
    exact ⟨(o.enter_keyListeners size s.input).trans hk,
      (o.enter_mouseListeners size s.input).trans hm⟩

section Path

variable {d : Devices W α Raw Frame} {s s' s'' : Window W α β} {size : Extent}
  {ds ds' : List (Delivery α Raw)}

/-- The size that the renderer was last brought to, after some deliveries. -/
def lastSize (size : Extent) : List (Delivery α Raw) → Extent
  | [] => size
  | .plain _ :: ds => lastSize size ds
  | .resized _ g :: ds => lastSize g.size ds

omit [Scalar α] in
theorem lastSize_append (size : Extent) (ds ds' : List (Delivery α Raw)) :
    lastSize size (ds ++ ds') = lastSize (lastSize size ds) ds' := by
  induction ds generalizing size with
  | nil => rfl
  | cons delivery ds ih =>
    cases delivery with
    | plain r => exact ih size
    | resized r g => exact ih g.size

theorem Path.append (h : Path d size s ds s') (h' : Path d (lastSize size ds) s' ds' s'') :
    Path d size s (ds ++ ds') s'' := by
  induction h with
  | nil => exact h'
  | plain hr _ ih => exact .plain hr (ih h')
  | resized hr hw hg hd _ ih => exact .resized hr hw hg hd (ih h')

/-- The settings follow the renderer. -/
theorem Path.size_config (h : Path d size s ds s') (hs : s.config.size = size) :
    s'.config.size = lastSize size ds := by
  induction h with
  | nil => exact hs
  | plain _ _ ih => exact ih hs
  | resized _ _ _ _ _ ih => exact ih rfl

theorem Path.wired (h : Path d size s ds s') (hs : s.Wired) : s'.Wired := by
  induction h with
  | nil => exact hs
  | plain _ _ ih => exact ih (hs.land _ _)
  | resized _ _ _ _ _ ih => exact ih hs

theorem land_events (s : Window W α β) (size : Extent) (r : Report α Raw) :
    (s.land size r).events =
      { s.events with waiting := s.events.waiting ++ r.event?.toList } := by
  unfold land
  rcases r.event? with _ | e
  · simp
  · rfl

/-- New events join at the end of the queue, and nothing else changes there. -/
theorem Path.events (h : Path d size s ds s') :
    s'.events = { s.events with waiting := s.events.waiting ++ Delivery.events ds } := by
  induction h with
  | nil => simp [Delivery.events]
  | @plain size s s' r ds _ _ ih =>
    rw [ih, land_events]
    rcases hr : r.event? with _ | e <;> simp [Delivery.events, Delivery.report, hr]
  | @resized size s s' r g w₁ w₂ ds hr _ _ _ _ ih =>
    rw [ih]
    simp [Delivery.events, Delivery.report, Report.event?_of_isResize hr, withSize]

theorem Path.patience (h : Path d size s ds s') (hd : Patient d) :
    d.platform.patience s'.world ≤ d.platform.patience s.world := by
  induction h with
  | nil => exact Nat.le_refl _
  | @plain size s s' r ds _ _ ih => exact Nat.le_trans ih (hd.report r s.world)
  | @resized size s s' r g w₁ w₂ ds _ hw _ hr _ ih =>
    have hresize : d.platform.patience w₂ ≤ d.platform.patience w₁ := by
      have hle := hd.resize g.size w₁
      rwa [hr] at hle
    have hwaits := hd.waits hw
    have hreport := hd.report r s.world
    simp only [withSize, inWorld_world] at ih
    omega

/-- A view of a window that shows nothing of what pumping changes. -/
structure Deaf {γ : Type} (d : Devices W α Raw Frame) (f : Window W α β → γ) : Prop where
  poll : ∀ s, f (s.inWorld (d.platform.poll s.world).2) = f s
  wait : ∀ s, f (s.inWorld (d.platform.wait s.world).2) = f s
  read : ∀ s, f (s.inWorld (d.platform.framebufferSize s.world).2) = f s
  forward : ∀ s raw, f (s.inWorld (d.gui.onRawEvent raw s.world)) = f s
  resize : ∀ s size, f (s.inWorld (d.renderer.resize size s.world).2) = f s
  land : ∀ s size (r : Report α Raw), f (s.land size r) = f s
  withSize : ∀ s size, f (s.withSize size) = f s

section Deaf

variable {γ : Type} {f : Window W α β → γ} (hf : Deaf d f)

include hf

theorem Deaf.report (s : Window W α β) (r : Report α Raw) :
    f (s.inWorld (r.forward d.gui s.world)) = f s := by
  rcases r with ⟨o, _ | raw⟩
  · rfl
  · exact hf.forward s raw

theorem Deaf.waits {w w' : W} {g : Settling α Raw} (h : Waits d.platform w g w')
    (s : Window W α β) : f (s.inWorld w') = f (s.inWorld w) := by
  induction h with
  | @last w w' size hread =>
    have hkeep := hf.read (s.inWorld w)
    rw [inWorld_world, hread] at hkeep
    exact hkeep
  | @again w w₁ w₂ w₃ size batch g hread _ hwait _ ih =>
    have hkeep := hf.read (s.inWorld w)
    have hkeep' := hf.wait (s.inWorld w₁)
    rw [inWorld_world, hread] at hkeep
    rw [inWorld_world, hwait] at hkeep'
    exact ih.trans (hkeep'.trans hkeep)

theorem Deaf.settled {w₁ w₂ : W} {g : Settling α Raw} {r : Report α Raw}
    {outcome : Except BackendError Unit}
    (hw : Waits d.platform (r.forward d.gui s.world) g w₁)
    (hd : d.renderer.resize g.size w₁ = (outcome, w₂)) : f (s.inWorld w₂) = f s := by
  have hkeep := hf.resize (s.inWorld w₁) g.size
  rw [inWorld_world, hd] at hkeep
  exact hkeep.trans ((hf.waits hw s).trans (hf.report s r))

theorem Path.keeps (h : Path d size s ds s') : f s' = f s := by
  induction h with
  | nil => rfl
  | plain _ _ ih => rw [ih, hf.land, hf.report]
  | resized _ hw _ hd _ ih => rw [ih, hf.withSize, hf.settled hw hd]

end Deaf

end Path

/-! ## Ends -/

section Ends

variable {d : Devices W α Raw Frame} {s s₁ s₂ s' : Window W α β} {r : Report α Raw}
  {g : Settling α Raw} {rs batch : List (Report α Raw)} {ds inner outer : List (Delivery α Raw)}
  {p : Except Halt Unit × Window W α β} {w₁ w₂ : W}

theorem Ends.of_ok (h : Ends d s batch ds (.ok (), s')) :
    Flatten batch ds ∧ Path d s.config.size s ds s' := by
  cases h with
  | done hf hp => exact ⟨hf, hp⟩

/-- Whatever the end, some path of deliveries leads to it, up to the world. -/
theorem Ends.path (h : Ends d s batch ds p) :
    ∃ s₁ w, Path d s.config.size s ds s₁ ∧ p.2 = s₁.inWorld w := by
  cases h with
  | done _ hp => exact ⟨_, _, hp, rfl⟩
  | refused _ hp => exact ⟨_, _, hp, rfl⟩
  | stalled _ hp => exact ⟨_, _, hp, rfl⟩

theorem Ends.events (h : Ends d s batch ds p) :
    p.2.events = { s.events with waiting := s.events.waiting ++ Delivery.events ds } := by
  obtain ⟨s₁, w, hpath, hp⟩ := h.path
  rw [hp]
  exact hpath.events

theorem Ends.size_config (h : Ends d s batch ds p) :
    p.2.config.size = lastSize s.config.size ds := by
  obtain ⟨s₁, w, hpath, hp⟩ := h.path
  rw [hp]
  exact hpath.size_config rfl

theorem Ends.wired (h : Ends d s batch ds p) (hs : s.Wired) : p.2.Wired := by
  obtain ⟨s₁, w, hpath, hp⟩ := h.path
  rw [hp]
  exact hpath.wired hs

theorem Ends.keeps {γ : Type} {f : Window W α β → γ} (h : Ends d s batch ds p)
    (hf : Deaf d f) : f p.2 = f s := by
  cases h with
  | done _ hp => exact hp.keeps hf
  | refused _ hp hw _ hd => exact (hf.settled hw hd).trans (hp.keeps hf)
  | stalled _ hp hw _ _ =>
    exact (hf.waits hw _).trans ((hf.report _ _).trans (hp.keeps hf))

theorem Ends.plain (hr : r.isResize = false)
    (h : Ends d ((s.inWorld (r.forward d.gui s.world)).land s.config.size r) rs ds p) :
    Ends d s (r :: rs) (.plain r :: ds) p := by
  cases h with
  | done hf hp => exact .done (.plain hr hf) (.plain hr hp)
  | refused hf hp hw hg hd => exact .refused (.plain hr hf) (.plain hr hp) hw hg hd
  | stalled hf hp hw hg hno => exact .stalled (.plain hr hf) (.plain hr hp) hw hg hno

theorem Ends.refused_head {e : BackendError} (hr : r.isResize = true)
    (hw : Waits d.platform (r.forward d.gui s.world) g w₁) (hg : g.size.isEmpty = false)
    (hd : d.renderer.resize g.size w₁ = (.error e, w₂)) :
    Ends d s (r :: rs) [] (.error (.failed (.backend e)), s.inWorld w₂) := by
  obtain ⟨inner, hinner⟩ := Flatten.total g.deferred
  obtain ⟨outer, houter⟩ := Flatten.total rs
  exact .refused (.resized hr hinner houter) .nil hw hg hd

theorem Ends.stalled_head (hr : r.isResize = true)
    (hw : Waits d.platform (r.forward d.gui s.world) g w₁) (hg : g.size.isEmpty = true)
    (hno : Patient d → Hopeless d.platform (r.forward d.gui s.world)) :
    Ends d s (r :: rs) [] (.error .stalled, s.inWorld w₁) := by
  obtain ⟨inner, hinner⟩ := Flatten.total g.deferred
  obtain ⟨outer, houter⟩ := Flatten.total rs
  exact .stalled (.resized hr hinner houter) .nil hw hg hno

/-- A halt among the deferred reports ends the batch as well. -/
theorem Ends.within {e : Halt} (hr : r.isResize = true)
    (hw : Waits d.platform (r.forward d.gui s.world) g w₁) (hg : g.size.isEmpty = false)
    (hd : d.renderer.resize g.size w₁ = (.ok (), w₂))
    (h : Ends d ((s.inWorld w₂).withSize g.size) g.deferred inner (.error e, s')) :
    Ends d s (r :: rs) (.resized r g :: inner) (.error e, s') := by
  obtain ⟨outer, houter⟩ := Flatten.total rs
  cases h with
  | refused hf hp hw' hg' hd' =>
    have hflat := Flatten.resized hr hf houter
    rw [List.append_assoc] at hflat
    exact .refused hflat (.resized hr hw hg hd hp) hw' hg' hd'
  | stalled hf hp hw' hg' hno =>
    have hflat := Flatten.resized hr hf houter
    rw [List.append_assoc] at hflat
    exact .stalled hflat (.resized hr hw hg hd hp) hw' hg' hno

/-- After the deferred reports come those that follow the change of size in its own batch. -/
theorem Ends.resized (hr : r.isResize = true)
    (hw : Waits d.platform (r.forward d.gui s.world) g w₁) (hg : g.size.isEmpty = false)
    (hd : d.renderer.resize g.size w₁ = (.ok (), w₂))
    (hf : Flatten g.deferred inner)
    (hp : Path d g.size ((s.inWorld w₂).withSize g.size) inner s₂) (h : Ends d s₂ rs outer p) :
    Ends d s (r :: rs) (.resized r g :: (inner ++ outer)) p := by
  have hsize : s₂.config.size = lastSize g.size inner := hp.size_config rfl
  have path {ds : List (Delivery α Raw)} {s' : Window W α β} (h : Path d s₂.config.size s₂ ds s') :
      Path d s.config.size s (.resized r g :: (inner ++ ds)) s' :=
    .resized hr hw hg hd (hp.append (hsize ▸ h))
  cases h with
  | done hf' hp' => exact .done (.resized hr hf hf') (path hp')
  | refused hf' hp' hw' hg' hd' =>
    have hflat := Flatten.resized hr hf hf'
    rw [← List.append_assoc] at hflat
    exact .refused hflat (path hp') hw' hg' hd'
  | stalled hf' hp' hw' hg' hno =>
    have hflat := Flatten.resized hr hf hf'
    rw [← List.append_assoc] at hflat
    exact .stalled hflat (path hp') hw' hg' hno

end Ends

/-! ## Dispatch -/

section Dispatch

omit [Scalar α] in
theorem eventOf?_key (b : Button) (action : Action) :
    eventOf? ⟨(), b, action⟩ = (Occurrence.key b action : Occurrence α).event? := by
  cases action <;> rfl

omit [Scalar α] in
theorem eventOf?_mouse (b : Button) (action : Action) :
    eventOf? ⟨(), b, action⟩ = (Occurrence.mouse b action : Occurrence α).event? := by
  cases action <;> rfl

/-- With the queue as its only listener, a window takes in what an occurrence means to it once. -/
theorem receive_eq_land {s : Window W α β} (hs : s.Wired) {r : Report α Raw} {o : Occurrence α}
    (hr : r.occurrence = some o) : s.receive o = s.land s.config.size r := by
  obtain ⟨hk, hm⟩ := hs
  rcases r with ⟨_, raw⟩
  obtain rfl : _ = some o := hr
  cases o with
  | key b action =>
    simp only [receive, withInput, Input.key_eq, Input.notices, hk, List.map_cons, List.map_nil,
      List.filterMap_cons, List.filterMap_nil, eventOf?_key (α := α)]
    cases action <;> rfl
  | mouse b action =>
    simp only [receive, withInput, Input.mouse_eq, Input.notices, hm, List.map_cons, List.map_nil,
      List.filterMap_cons, List.filterMap_nil, eventOf?_mouse (α := α)]
    cases action <;> rfl
  | _ => rfl

omit [Scalar α] [Narrowing α β] in
/-- Waiting for a size reads and waits as `Waits` tells, and gives up only on a size without an
area when there is no patience left. -/
theorem exec_awaitSize (patience : Nat) (s : Window W α β) :
    ∃ g w, Waits d.platform s.world g w ∧ g.waits.length ≤ patience ∧
      (g.size.isEmpty = true → patience ≤ g.waits.length) ∧
      exec (awaitSize d patience) s =
        (if g.size.isEmpty then .error .stalled else .ok (g.size, g.deferred), s.inWorld w) := by
  induction patience generalizing s with
  | zero =>
    refine ⟨⟨[], (d.platform.framebufferSize s.world).1⟩, _, .last rfl, Nat.le_refl _,
      fun _ => Nat.zero_le _, ?_⟩
    rw [awaitSize, exec_bind_of_ok (exec_ask _ _)]
    dsimp only
    split <;> rfl
  | succ patience ih =>
    rw [awaitSize, exec_bind_of_ok (exec_ask _ _)]
    rcases hread : d.platform.framebufferSize s.world with ⟨size, w₁⟩
    dsimp only
    split
    · rename_i hsize
      rcases hwait : d.platform.wait w₁ with ⟨batch, w₂⟩
      obtain ⟨g, w₃, hg, hlen, hspent, hexec⟩ := ih (s.inWorld w₂)
      refine ⟨⟨(size, batch) :: g.waits, g.size⟩, w₃, .again hread hsize hwait hg,
        Nat.succ_le_succ hlen, fun hempty => Nat.succ_le_succ (hspent hempty), ?_⟩
      rw [exec_bind_of_ok (exec_ask _ _), inWorld_world, hwait, inWorld_inWorld, exec_bind, hexec]
      rcases g.size.isEmpty with _ | _ <;> rfl
    · rename_i hsize
      refine ⟨⟨[], size⟩, w₁, .last hread, Nat.zero_le _, fun hempty => absurd hempty hsize, ?_⟩
      rw [if_neg hsize]
      rfl

omit [Scalar α] [Narrowing α β] in
/-- Settling a size: the wait for it, the renderer, and then what was deferred. -/
theorem exec_settleSize (patience : Nat) (follow : List (Report α Raw) → WindowM W α β Unit)
    (s : Window W α β) :
    ∃ g w, Waits d.platform s.world g w ∧ g.waits.length ≤ patience ∧
      (g.size.isEmpty = true → patience ≤ g.waits.length) ∧
      exec (settleSize d patience follow) s =
        if g.size.isEmpty then (.error .stalled, s.inWorld w)
        else
          match d.renderer.resize g.size w with
          | (.ok (), w') => exec (follow g.deferred) ((s.inWorld w').withSize g.size)
          | (.error e, w') => (.error (.failed (.backend e)), s.inWorld w') := by
  obtain ⟨g, w, hg, hlen, hspent, hexec⟩ := exec_awaitSize d patience s
  refine ⟨g, w, hg, hlen, hspent, ?_⟩
  rw [settleSize, exec_bind, hexec]
  rcases g.size.isEmpty with _ | _
  · show exec (attempt (d.renderer.resize g.size) >>= _) (s.inWorld w) = _
    rw [exec_bind, exec_attempt, inWorld_world]
    rcases d.renderer.resize g.size w with ⟨_ | _, w'⟩ <;> rfl
  · rfl

theorem exec_handle (patience : Nat) (follow : List (Report α Raw) → WindowM W α β Unit)
    (r : Report α Raw) (s : Window W α β) :
    exec (handle d patience follow r) s =
      exec (match r.occurrence with
        | some (.resized _) => settleSize d patience follow
        | some occurrence => modify (·.receive occurrence)
        | none => pure ()) (s.inWorld (r.forward d.gui s.world)) := by
  rcases r with ⟨o, _ | raw⟩ <;> rfl

theorem exec_handle_plain {s : Window W α β} (hs : s.Wired) {r : Report α Raw}
    (hr : r.isResize = false) (patience : Nat)
    (follow : List (Report α Raw) → WindowM W α β Unit) :
    exec (handle d patience follow r) s =
      (.ok (), (s.inWorld (r.forward d.gui s.world)).land s.config.size r) := by
  rw [exec_handle]
  rcases ho : r.occurrence with _ | o
  · rcases r with ⟨_, raw⟩
    obtain rfl : _ = none := ho
    rfl
  · have hland := receive_eq_land (s := s.inWorld (r.forward d.gui s.world)) hs ho
    cases o with
    | resized size => simp [Report.isResize, ho] at hr
    | _ => exact congrArg (Prod.mk (Except.ok ())) hland

theorem exec_handle_resize {r : Report α Raw} (hr : r.isResize = true) (s : Window W α β)
    (patience : Nat) (follow : List (Report α Raw) → WindowM W α β Unit) :
    exec (handle d patience follow r) s =
      exec (settleSize d patience follow) (s.inWorld (r.forward d.gui s.world)) := by
  rw [exec_handle]
  rcases ho : r.occurrence with _ | o
  · simp [Report.isResize, ho] at hr
  · cases o with
    | resized size => rfl
    | _ => simp [Report.isResize, ho] at hr

/-- The reports of a list are handed over as `Ends` tells, if those that a change of size has
deferred are. -/
theorem exec_forM_handle_ends (patience : Nat)
    {follow : List (Report α Raw) → WindowM W α β Unit}
    (hfollow : ∀ (g : Settling α Raw) (s : Window W α β), g.waits.length ≤ patience → s.Wired →
      (Patient d → d.platform.patience s.world ≤ patience - g.waits.length) →
      ∃ ds, Ends d s g.deferred ds (exec (follow g.deferred) s))
    (reports : List (Report α Raw)) (s : Window W α β) (hs : s.Wired)
    (hn : Patient d → d.platform.patience s.world ≤ patience) :
    ∃ ds, Ends d s reports ds (exec (reports.forM (handle d patience follow)) s) := by
  induction reports generalizing s with
  | nil => exact ⟨[], .done .nil .nil⟩
  | cons r rs ih =>
    have hforward (hd : Patient d) : d.platform.patience (r.forward d.gui s.world) ≤ patience :=
      Nat.le_trans (hd.report r s.world) (hn hd)
    show ∃ ds, Ends d s (r :: rs) ds
      (exec (handle d patience follow r >>= fun _ => rs.forM (handle d patience follow)) s)
    rcases hr : r.isResize with _ | _
    · rw [exec_bind_of_ok (exec_handle_plain d hs hr patience follow)]
      obtain ⟨ds, h⟩ :=
        ih _ (Wired.land (s := s.inWorld (r.forward d.gui s.world)) hs _ r) hforward
      exact ⟨_, h.plain hr⟩
    · obtain ⟨g, w, hw, hlen, hspent, hexec⟩ :=
        exec_settleSize d patience follow (s.inWorld (r.forward d.gui s.world))
      rw [exec_bind, exec_handle_resize d hr, hexec]
      rcases hg : g.size.isEmpty with _ | _
      · rcases hd : d.renderer.resize g.size w with ⟨e | ⟨⟩, w'⟩
        · exact ⟨[], .refused_head hr hw hg hd⟩
        · have hleft (hp : Patient d) : d.platform.patience w' ≤ patience - g.waits.length := by
            have hresize : d.platform.patience w' ≤ d.platform.patience w := by
              have hle := hp.resize g.size w
              rwa [hd] at hle
            have hwaits := hp.waits hw
            have hstart := hforward hp
            rw [inWorld_world] at hwaits
            omega
          obtain ⟨inner, hinner⟩ := hfollow g ((s.inWorld w').withSize g.size) hlen hs hleft
          simp only [inWorld_inWorld, Bool.false_eq_true, if_false]
          -- `rs` comes only after all that was deferred, and not at all if that has failed
          rcases hin : exec (follow g.deferred) ((s.inWorld w').withSize g.size) with ⟨e | ⟨⟩, s₂⟩
          · rw [hin] at hinner
            exact ⟨_, .within hr hw hg hd hinner⟩
          · rw [hin] at hinner
            obtain ⟨hf, hp⟩ := hinner.of_ok
            obtain ⟨outer, houter⟩ := ih s₂ (hp.wired hs) fun hd => by
              have hpath := hp.patience hd
              have hrest := hleft hd
              simp only [withSize, inWorld_world] at hpath
              omega
            exact ⟨_, .resized hr hw hg hd hf hp houter⟩
      · refine ⟨[], .stalled_head hr hw hg fun hd => hd.hopeless hw hg ?_⟩
        exact Nat.le_trans (hforward hd) (hspent hg)

/-- What a change of size has deferred is handed over with one wait less in patience, and it is
nothing unless there was a wait. -/
theorem exec_deferred_ends {patience : Nat}
    (hdispatch : ∀ (reports : List (Report α Raw)) (s : Window W α β), s.Wired →
      (Patient d → d.platform.patience s.world ≤ patience) →
        ∃ ds, Ends d s reports ds (exec (dispatch d patience reports) s))
    (g : Settling α Raw) {s : Window W α β} (hs : s.Wired)
    (hn : Patient d → d.platform.patience s.world ≤ patience + 1 - g.waits.length) :
    ∃ ds, Ends d s g.deferred ds (exec (dispatch d patience g.deferred) s) := by
  rcases hwaits : g.waits with _ | ⟨wait, waits⟩
  · have hnone : g.deferred = [] := by rw [Settling.deferred, hwaits, List.flatMap_nil]
    rw [hnone]
    exact ⟨[], by cases patience <;> exact .done .nil .nil⟩
  · refine hdispatch g.deferred s hs fun hd => ?_
    have hle := hn hd
    rw [hwaits, List.length_cons] at hle
    omega

/-- Dispatch hands over a batch as `Ends` tells. -/
theorem exec_dispatch_ends (patience : Nat) (reports : List (Report α Raw)) (s : Window W α β)
    (hs : s.Wired) (hn : Patient d → d.platform.patience s.world ≤ patience) :
    ∃ ds, Ends d s reports ds (exec (dispatch d patience reports) s) := by
  induction patience generalizing reports s with
  | zero =>
    refine exec_forM_handle_ends d 0 (fun g s hlen _ _ => ?_) reports s hs hn
    -- without a wait nothing is deferred, so it does not matter that the nesting ends here
    have hwaits : g.waits = [] := List.length_eq_zero_iff.1 (Nat.le_zero.1 hlen)
    have hnone : g.deferred = [] := by rw [Settling.deferred, hwaits, List.flatMap_nil]
    rw [hnone]
    exact ⟨[], .done .nil .nil⟩
  | succ patience ih =>
    exact exec_forM_handle_ends d (patience + 1)
      (fun g s _ hs hn => exec_deferred_ends d ih g hs hn) reports s hs hn

/-- Pumping takes a batch from the platform and hands it over. -/
theorem exec_pump_ends (s : Window W α β) (hs : s.Wired) :
    ∃ ds, Ends d (s.inWorld (d.platform.poll s.world).2) (d.platform.poll s.world).1 ds
      (exec (pump d) s) := by
  rw [pump, exec_bind_of_ok (exec_ask _ _), exec_bind_of_ok (exec_get _)]
  exact exec_dispatch_ends d _ _ _ hs fun _ => Nat.le_refl _

theorem Deaf.keeps_pump {γ : Type} {f : Window W α β → γ} (hf : Deaf d f) {s : Window W α β}
    (hs : s.Wired) : f (exec (pump d) s).2 = f s := by
  obtain ⟨ds, hends⟩ := exec_pump_ends d s hs
  exact (hends.keeps hf).trans (hf.poll s)

/-- Settling the size of the framebuffer is the same as handing over an opening report. -/
theorem exec_resize_ends (s : Window W α β) (hs : s.Wired) :
    ∃ ds, Ends d s [.opening] ds (exec (resize d) s) := by
  rw [resize, exec_bind_of_ok (exec_get _)]
  generalize hpatience : d.platform.patience s.world = patience
  obtain ⟨ds, h⟩ := exec_forM_handle_ends d patience
    (fun g s _ hs hn => exec_deferred_ends d (exec_dispatch_ends d (patience - 1)) g hs
      fun hd => Nat.le_trans (hn hd) (by omega)) [.opening] s hs fun _ => Nat.le_of_eq hpatience
  refine ⟨ds, ?_⟩
  rw [show [Report.opening].forM (handle d patience (dispatch d (patience - 1)))
      = (handle d patience (dispatch d (patience - 1)) .opening >>= fun _ => pure ⟨⟩ :
        WindowM W α β PUnit) from rfl, exec_bind, exec_handle_resize d rfl] at h
  rcases hexec : exec (settleSize d patience (dispatch d (patience - 1))) s with ⟨e | ⟨⟩, s'⟩
  all_goals
    rw [show s.inWorld (Report.forward d.gui (.opening : Report α Raw) s.world) = s from rfl,
      hexec] at h
    exact h

end Dispatch

end Window

end WindowHost
