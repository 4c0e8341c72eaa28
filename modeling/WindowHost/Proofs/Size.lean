import WindowHost.Proofs.Order
import WindowHost.Proofs.Place
import WindowHost.Proofs.Record

/-!
# The size of a window

The platform, the renderer and the settings each have a size. The renderer is only asked for sizes
with an area, and between operations the settings have the size that it was brought to last
(`SizeAgrees`), however the operations have ended. So the place of the cursor is always a fraction
of a size with an area, and the renderer is asked for a size once for each report of a new one.
-/

namespace WindowHost

variable {W α β Raw Frame : Type}

/-! ## Sizes in the record -/

/-- The size that a call brings the renderer to. -/
def Call.resized? : Call α Raw Frame → Option Extent
  | .resize size (.ok ()) => some size
  | _ => none

def Call.isResize (call : Call α Raw Frame) : Bool := call.kind == .resizing

/-- The size that the renderer was brought to last. -/
def settledSize? (calls : List (Call α Raw Frame)) : Option Extent :=
  (calls.filterMap Call.resized?).getLast?

/-- The renderer is asked for sizes with an area only. -/
def Usable (calls : List (Call α Raw Frame)) : Prop :=
  ∀ size outcome, .resize size outcome ∈ calls → size.isEmpty = false

/-- The renderer has the size that it was brought to, until it is brought to another one; a size
that it refuses leaves it as it is. -/
def Devices.Sized (d : Devices W α Raw Frame) : Prop :=
  ∀ w call w', d.Does w call w' → d.renderer.size w' = call.resized?.getD (d.renderer.size w)

section Record

variable {calls calls' : List (Call α Raw Frame)} {kinds : List Call.Kind}

theorem settledSize?_append (calls calls' : List (Call α Raw Frame)) :
    settledSize? (calls ++ calls') = (settledSize? calls').or (settledSize? calls) := by
  rw [settledSize?, List.filterMap_append, List.getLast?_append]
  rfl

theorem Call.resized?_of_kind {call : Call α Raw Frame} (h : call.kind ≠ .resizing) :
    call.resized? = none := by
  cases call with
  | resize => exact absurd rfl h
  | _ => rfl

theorem usable_nil : Usable ([] : List (Call α Raw Frame)) :=
  fun _ _ h => absurd h List.not_mem_nil

theorem Usable.append (h : Usable calls) (h' : Usable calls') : Usable (calls ++ calls') := by
  intro size outcome hmem
  rcases List.mem_append.1 hmem with hmem | hmem
  · exact h size outcome hmem
  · exact h' size outcome hmem

theorem usable_resize {size : Extent} (hsize : size.isEmpty = false)
    (outcome : Except BackendError Unit) :
    Usable [(.resize size outcome : Call α Raw Frame)] := by
  intro size' outcome' hmem
  cases List.mem_singleton.1 hmem
  exact hsize

/-- A size that the renderer was brought to has an area. -/
theorem Usable.settled (h : Usable calls) {size : Extent} (hsize : settledSize? calls = some size) :
    size.isEmpty = false := by
  obtain ⟨call, hcall, hresized⟩ := List.mem_filterMap.1 (List.mem_of_getLast? hsize)
  cases call with
  | resize size' outcome =>
    rcases outcome with e | ⟨⟩
    · cases hresized
    · cases hresized
      exact h size _ hcall
  | _ => cases hresized

section Other

variable (h : OfKinds kinds calls) (hk : .resizing ∉ kinds)

include h hk

/-- Other calls bring the renderer to no size. -/
theorem OfKinds.settledSize? : settledSize? calls = none := by
  have hnone : calls.filterMap Call.resized? = [] := by
    refine List.filterMap_eq_nil_iff.2 fun call hcall => Call.resized?_of_kind fun hkind => ?_
    exact hk (hkind ▸ h call hcall)
  rw [WindowHost.settledSize?, hnone]
  rfl

theorem OfKinds.usable : Usable calls :=
  fun _ _ hmem => absurd (h _ hmem) hk

theorem OfKinds.countP_isResize : calls.countP Call.isResize = 0 := h.countP_kind hk

end Other

/-- The renderer has the size that it was brought to last on the way. -/
theorem Devices.Trace.size {d : Devices W α Raw Frame} (hd : d.Sized) {w w' : W}
    (h : d.Trace w calls w') :
    d.renderer.size w' = (settledSize? calls).getD (d.renderer.size w) := by
  induction h with
  | nil => rfl
  | @cons w w' w'' call calls hcall _ ih =>
    have hhead : settledSize? [call] = call.resized? := by
      rcases hresized : call.resized? with _ | size <;> simp [settledSize?, hresized]
    rw [ih, hd _ _ _ hcall, ← List.singleton_append, settledSize?_append, hhead]
    cases settledSize? calls <;> rfl

/-- For a renderer in a world of its own it is enough what its own calls do. -/
theorem sized_ofParts {P R G C : Type} {p : Platform P α Raw} {r : Renderer R Frame}
    {g : Gui G Raw Frame} {c : Pacing.Clock C}
    (hresize : ∀ size w, r.size (r.resize size w).2 =
      if (r.resize size w).1.isOk then size else r.size w)
    (hdraw : ∀ frame w, r.size (r.draw frame w).2 = r.size w)
    (hpresent : ∀ w, r.size (r.present w).2 = r.size w)
    (hdump : ∀ w, r.size (r.dump w).2 = r.size w)
    (hwrite : ∀ path w, r.size (r.writeImage path w).2 = r.size w)
    (hdepth : ∀ target w, r.size (r.copyDepth target w).2 = r.size w)
    (hprepare : ∀ w, r.size (r.prepare w) = r.size w) :
    (Devices.ofParts p r g c).Sized := by
  intro w call w' h
  cases h with
  | draw frame w => exact hdraw frame w.renderer
  | present w => exact hpresent w.renderer
  | dump w => exact hdump w.renderer
  | writeImage path w => exact hwrite path w.renderer
  | copyDepth target w => exact hdepth target w.renderer
  | prepareRenderer w => exact hprepare w.renderer
  | resize size w =>
    have hstep := hresize size w.renderer
    show r.size (r.resize size w.renderer).2 =
      ((.resize size (r.resize size w.renderer).1 : Call α Raw Frame).resized?).getD
        (r.size w.renderer)
    rcases houtcome : (r.resize size w.renderer).1 with e | ⟨⟩
    · rw [houtcome] at hstep
      exact hstep
    · rw [houtcome] at hstep
      exact hstep
  | _ => rfl

end Record

/-! ## Sizes in a pump -/

section Pumping

variable (r : Report α Raw) (g : Settling α Raw) (outcome : Except BackendError Unit)

theorem kinds_before_resize :
    OfKinds [.pumping] (r.calls ++ g.calls : List (Call α Raw Frame)) :=
  r.kinds_calls.append g.kinds_calls

theorem countP_settled :
    (r.calls ++ g.calls ++ [.resize g.size outcome] : List (Call α Raw Frame)).countP
      Call.isResize = 1 := by
  rw [List.countP_append, (kinds_before_resize r g).countP_isResize (by decide)]
  rfl

theorem settledSize?_settled :
    settledSize? (r.calls ++ g.calls ++ [.resize g.size outcome] : List (Call α Raw Frame)) =
      if outcome.isOk then some g.size else none := by
  rw [settledSize?_append, (kinds_before_resize r g).settledSize? (by decide)]
  rcases outcome with e | ⟨⟩ <;> rfl

theorem usable_settled (hg : g.size.isEmpty = false) :
    Usable (r.calls ++ g.calls ++ [.resize g.size outcome] : List (Call α Raw Frame)) :=
  ((kinds_before_resize r g).usable (by decide)).append (usable_resize hg outcome)

/-- The deliveries of a list bring the renderer to the sizes in them. -/
theorem settledSize?_flatMap_calls (ds : List (Delivery α Raw)) (size : Extent) :
    (settledSize? (ds.flatMap Delivery.calls : List (Call α Raw Frame))).getD size =
      Window.lastSize size ds := by
  induction ds generalizing size with
  | nil => rfl
  | cons x ds ih =>
    rw [List.flatMap_cons, settledSize?_append]
    cases x with
    | plain r =>
      rw [Delivery.calls, r.kinds_calls.settledSize? (by decide), Option.or_none, ih]
      rfl
    | resized r g =>
      rw [Delivery.calls, settledSize?_settled, Window.lastSize, ← ih g.size]
      cases settledSize? (ds.flatMap Delivery.calls : List (Call α Raw Frame)) <;> rfl

end Pumping

/-- Nothing is pending, or what of a batch is pending after some deliveries. -/
def pending : List (Report α Raw) → List (Delivery α Raw) → List (Report α Raw)
  | rs, [] => rs
  | [], _ => []
  | _ :: rs, x :: ds => pending (x.deferred ++ rs) ds

/-- The reports that a turn has taken up: those that were delivered, and the one at which it has
failed. -/
def Turn.takenUp (turn : Turn W α β Raw) : List (Report α Raw) :=
  turn.delivered.map Delivery.report ++
    if turn.answer.isOk then [] else (pending turn.batch turn.delivered).take 1

theorem Works.pending_append {rs : List (Report α Raw)} {ds ds' : List (Delivery α Raw)}
    (h : Works rs (ds ++ ds')) : Works (pending rs ds) ds' := by
  induction ds generalizing rs with
  | nil => cases rs <;> exact h
  | cons x ds ih =>
    cases h with
    | cons hrest => exact ih hrest

/-- After its flattening nothing of a batch is pending. -/
theorem Flatten.pending_nil {batch : List (Report α Raw)} {ds : List (Delivery α Raw)}
    (h : Flatten batch ds) : pending batch ds = [] := by
  have hworks := h.works
  rw [← List.append_nil ds] at hworks
  -- what is still pending is worked off by no further delivery
  have hrest := hworks.pending_append
  generalize pending batch ds = rest at hrest
  cases hrest
  rfl

theorem Flatten.isResize {batch : List (Report α Raw)} {ds : List (Delivery α Raw)}
    (h : Flatten batch ds) {r : Report α Raw} {g : Settling α Raw} (hmem : .resized r g ∈ ds) :
    r.isResize = true := by
  induction h with
  | nil => cases hmem
  | plain _ _ ih =>
    cases hmem with
    | tail _ hmem => exact ih hmem
  | resized hr _ _ ihInner ihOuter =>
    cases hmem with
    | head => exact hr
    | tail _ hmem =>
      rcases List.mem_append.1 hmem with hmem | hmem
      · exact ihInner hmem
      · exact ihOuter hmem

/-- The opening of a visible window starts with an opening report. -/
theorem Flatten.opening {batch : List (Report α Raw)} {ds : List (Delivery α Raw)}
    (h : Flatten batch ds)
    (hbatch : batch = [.opening]) : ∃ g rest, ds = .resized .opening g :: rest := by
  cases h with
  | nil => cases hbatch
  | plain hr =>
    cases hbatch
    cases hr
  | resized =>
    cases hbatch
    exact ⟨_, _, rfl⟩

/-- A failure of the window, as often as an outcome is one. -/
def refusals : Except Halt Unit → Nat
  | .error (.failed _) => 1
  | _ => 0

theorem Ending.countP_isResize {res : Except Halt Unit} {last : List (Call α Raw Frame)}
    (h : Ending res last) : last.countP Call.isResize = refusals res := by
  cases h with
  | done => rfl
  | @refused r g e _ => exact countP_settled r g _
  | @stalled r g => exact (kinds_before_resize r g).countP_isResize (by decide)

theorem Ending.settledSize? {res : Except Halt Unit} {last : List (Call α Raw Frame)}
    (h : Ending res last) : settledSize? last = none := by
  cases h with
  | done => rfl
  | @refused r g e _ => exact settledSize?_settled r g _
  | @stalled r g => exact (kinds_before_resize r g).settledSize? (by decide)

theorem Ending.usable {res : Except Halt Unit} {last : List (Call α Raw Frame)}
    (h : Ending res last) : Usable last := by
  cases h with
  | done => exact usable_nil
  | @refused r g e hg => exact usable_settled r g _ hg
  | @stalled r g => exact (kinds_before_resize r g).usable (by decide)

namespace Window

open Recorded (Adds)

variable [Scalar α] [Narrowing α β] {d : Devices W α Raw Frame} {size : Extent}
  {s s' s'' : RecordedWindow W α β Raw Frame} {calls calls' : List (Call α Raw Frame)}
  {batch : List (Report α Raw)} {ds : List (Delivery α Raw)}
  {p : Except Halt Unit × RecordedWindow W α β Raw Frame}

theorem Path.usable (h : Path d.recorded size s ds s') :
    Usable (ds.flatMap Delivery.calls : List (Call α Raw Frame)) := by
  induction h with
  | nil => exact usable_nil
  | @plain size s s' r ds _ _ ih => exact (r.kinds_calls.usable (by decide)).append ih
  | @resized size s s' r g w₁ w₂ ds _ _ hg _ _ ih => exact (usable_settled r g _ hg).append ih

/-- The renderer is asked for a size once for each report of a new one. -/
theorem Path.countP_isResize (h : Path d.recorded size s ds s') :
    (ds.flatMap Delivery.calls : List (Call α Raw Frame)).countP Call.isResize =
      (ds.map Delivery.report).countP Report.isResize := by
  -- along the path, where nested deliveries follow the one that has deferred them
  induction h with
  | nil => rfl
  | @plain size s s' r ds hr _ ih =>
    have hreport : ¬ (Delivery.plain r).report.isResize = true := Bool.not_eq_true _ ▸ hr
    rw [List.flatMap_cons, List.countP_append, ih, Delivery.calls,
      r.kinds_calls.countP_isResize (by decide), List.map_cons,
      List.countP_cons_of_neg hreport, Nat.zero_add]
  | @resized size s s' r g w₁ w₂ ds hr _ _ _ _ ih =>
    have hreport : (Delivery.resized r g).report.isResize = true := hr
    rw [List.flatMap_cons, List.countP_append, ih, Delivery.calls, countP_settled, List.map_cons,
      List.countP_cons_of_pos hreport, Nat.add_comm]

/-! ## Sizes and operations -/

/-- On the way from `s` to `s'` the calls have joined the record, and the settings follow the sizes
that the renderer was brought to. -/
structure Resettles (d : Devices W α Raw Frame) (s : RecordedWindow W α β Raw Frame)
    (calls : List (Call α Raw Frame)) (s' : RecordedWindow W α β Raw Frame) : Prop where
  adds : Adds d s.world calls s'.world
  usable : Usable calls
  config : s'.config = { s.config with size := (settledSize? calls).getD s.config.size }

omit [Scalar α] [Narrowing α β] in
theorem Resettles.append (h : Resettles d s calls s') (h' : Resettles d s' calls' s'') :
    Resettles d s (calls ++ calls') s'' := by
  refine ⟨h.adds.append h'.adds, h.usable.append h'.usable, ?_⟩
  rw [h'.config, h.config, settledSize?_append]
  cases settledSize? calls' <;> rfl

omit [Scalar α] [Narrowing α β] in
/-- Without a call for a size the settings stay. -/
theorem resettles_of_kinds (kinds : List Call.Kind) (hk : .resizing ∉ kinds)
    (hconfig : s'.config = s.config)
    (hcalls : ∃ calls, Adds d s.world calls s'.world ∧ OfKinds kinds calls) :
    ∃ calls, Resettles d s calls s' ∧ calls.countP Call.isResize = 0 := by
  obtain ⟨calls, hadds, hkinds⟩ := hcalls
  refine ⟨calls, ⟨hadds, hkinds.usable hk, ?_⟩, hkinds.countP_isResize hk⟩
  rw [hkinds.settledSize? hk]
  exact hconfig

/-- A pump asks the renderer for a size once for each report of a new one that it delivers, and
once more if it fails. -/
theorem Ends.resettles (h : Ends d.recorded s batch ds p) :
    ∃ calls, Resettles d s calls p.2 ∧ calls.countP Call.isResize =
      (ds.map Delivery.report).countP Report.isResize + refusals p.1 := by
  obtain ⟨last, hadds, hlast⟩ := h.adds
  obtain ⟨s₁, w, hpath, -⟩ := h.path
  refine ⟨_, ⟨hadds, hpath.usable.append hlast.usable, ?_⟩, ?_⟩
  · rw [settledSize?_append, hlast.settledSize?, Option.none_or, settledSize?_flatMap_calls,
      h.config_eq]
  · rw [List.countP_append, hpath.countP_isResize, hlast.countP_isResize]

/-- What is pending of a pump that fails starts with the report of the size that was refused. -/
theorem Ends.countP_pending (h : Ends d.recorded s batch ds p) (hp : p.1 ≠ .error .stalled) :
    ((pending batch ds).take 1).countP Report.isResize = refusals p.1 := by
  cases h with
  | done hflat _ =>
    rw [hflat.pending_nil]
    rfl
  | refused hflat =>
    have hr := hflat.isResize (List.mem_append_right _ List.mem_cons_self)
    have hworks := hflat.works.pending_append
    generalize pending batch ds = rs at hworks
    cases hworks
    exact List.countP_cons_of_pos hr
  | stalled => exact absurd rfl hp

omit [Scalar α] [Narrowing α β] in
theorem lead_resettles {op : Operation (Recorded W α Raw Frame)} {res : Except Halt Unit}
    (h : exec (op.lead d.recorded) s = (res, s')) :
    ∃ calls, Resettles d s calls s' ∧ calls.countP Call.isResize = 0 := by
  obtain ⟨hconfig, hcalls⟩ :=
    (Operation.makes_lead (d := d) (f := Window.config) (fun _ _ => rfl) (fun _ _ => rfl)
      op).of_exec h
  exact resettles_of_kinds _ (by decide) hconfig hcalls

/-- A poll and what comes of its batch. -/
theorem Ends.poll_resettles {w : Recorded W α Raw Frame}
    (hpoll : d.recorded.platform.poll s.world = (batch, w))
    (h : Ends d.recorded (s.inWorld w) batch ds p) :
    ∃ calls, Resettles d s calls p.2 ∧ calls.countP Call.isResize =
      (ds.map Delivery.report).countP Report.isResize + refusals p.1 := by
  obtain ⟨rfl, rfl⟩ := Prod.mk.inj hpoll
  obtain ⟨calls, hcalls, hcount⟩ := h.resettles
  obtain ⟨polled, hpolled, hnone⟩ : ∃ calls,
      Resettles d s calls (s.inWorld (d.recorded.platform.poll s.world).2) ∧
        calls.countP Call.isResize = 0 :=
    resettles_of_kinds [.pumping] (by decide) rfl
      ⟨_, Recorded.adds_singleton (.poll s.world.world) rfl, ofKinds_singleton (.head _)⟩
  refine ⟨_, hpolled.append hcalls, ?_⟩
  rw [List.countP_append, hnone, hcount, Nat.zero_add]

section Operations

variable [Scalar β] {op : Operation (Recorded W α Raw Frame)}

theorem tail_resettles (hout : op.isOutside = false) {res : Except Halt (Answer α β)}
    (h : exec (op.tail d.recorded) s = (res, s')) :
    ∃ calls, Resettles d s calls s' ∧ calls.countP Call.isResize = 0 := by
  have hconfig := op.tail_config d.recorded h
  rcases hop : op.pumps with _ | _
  · rw [Operation.tail_of_not_pumps _ hop] at h
    have hmakes := Operation.makes_perform (d := d)
      (f := fun _ : RecordedWindow W α β Raw Frame => ()) (fun _ _ => rfl) (fun _ _ => rfl)
      (fun _ _ => rfl) (fun _ _ => rfl) (fun _ => rfl) hop hout
    exact resettles_of_kinds _ (by decide) hconfig (hmakes.of_exec h).2
  · exact resettles_of_kinds _ (by decide) hconfig (exec_tail_pumps hop h)

/-- However an operation ends, the settings have followed the renderer. -/
theorem exec_perform_resettles (hs : s.Wired) (hout : op.isOutside = false)
    {res : Except Halt (Answer α β)} (h : exec (op.perform d.recorded) s = (res, s')) :
    ∃ calls, Resettles d s calls s' := by
  rcases hop : op.pumps with _ | _
  · rw [← Operation.tail_of_not_pumps d.recorded hop] at h
    obtain ⟨calls, hcalls, -⟩ := tail_resettles hout h
    exact ⟨calls, hcalls⟩
  · cases Operation.pumping hop h with
    | refused hlead =>
      obtain ⟨calls, hcalls, -⟩ := lead_resettles hlead
      exact ⟨calls, hcalls⟩
    | @broken s₁ e s' hlead hpump =>
      obtain ⟨before, hbefore, -⟩ := lead_resettles hlead
      obtain ⟨ds, hends⟩ := exec_pump_ends d.recorded s₁ (hs.lead hlead)
      obtain ⟨calls, hcalls, -⟩ := hends.poll_resettles rfl
      rw [hpump] at hcalls
      exact ⟨_, hbefore.append hcalls⟩
    | @finished s₁ s₂ res s' hlead hpump htail =>
      obtain ⟨before, hbefore, -⟩ := lead_resettles hlead
      obtain ⟨ds, hends⟩ := exec_pump_ends d.recorded s₁ (hs.lead hlead)
      obtain ⟨calls, hcalls, -⟩ := hends.poll_resettles rfl
      rw [hpump] at hcalls
      obtain ⟨after, hafter, -⟩ := tail_resettles hout htail
      exact ⟨_, (hbefore.append hcalls).append hafter⟩

/-- A turn asks the renderer for a size once for each report of a new one that it takes up. -/
theorem Step.resettles {turn : Turn (Recorded W α Raw Frame) α β Raw}
    (h : Step d.recorded s turn s')
    (hout : ∀ op, turn.operation = some op → op.isOutside = false) :
    ∃ calls, Resettles d s calls s' ∧
      calls.countP Call.isResize = turn.takenUp.countP Report.isResize := by
  cases h with
  | @alone op a s' hop h =>
    rw [← Operation.tail_of_not_pumps d.recorded hop] at h
    obtain ⟨calls, hcalls, hcount⟩ := tail_resettles (hout op rfl) h
    refine ⟨calls, hcalls, ?_⟩
    rw [hcount]
    cases a <;> rfl
  | @refused op e s' hop h =>
    obtain ⟨calls, hcalls, hcount⟩ := lead_resettles h
    exact ⟨calls, hcalls, hcount⟩
  | @interrupted op s₁ w batch ds e s' hop hlead hpoll hpump hends =>
    obtain ⟨before, hbefore, hnone⟩ := lead_resettles hlead
    obtain ⟨calls, hcalls, hcount⟩ := hends.poll_resettles hpoll
    refine ⟨_, hbefore.append hcalls, ?_⟩
    have hlast := hends.countP_pending (fun hp => by cases hp)
    rw [List.countP_append, hnone, hcount, Nat.zero_add, Turn.takenUp, List.countP_append,
      ← hlast]
    rfl
  | @pumped op s₁ w batch ds s₂ a s' hop hlead hpoll hpump hends htail =>
    obtain ⟨before, hbefore, hnone⟩ := lead_resettles hlead
    obtain ⟨calls, hcalls, hcount⟩ := hends.poll_resettles hpoll
    obtain ⟨after, hafter, hnone'⟩ := tail_resettles (hout op rfl) htail
    refine ⟨_, (hbefore.append hcalls).append hafter, ?_⟩
    have hpending : (if a.isOk then [] else (pending batch ds).take 1) = [] := by
      rw [hends.of_ok.1.pending_nil]
      split <;> rfl
    rw [List.countP_append, List.countP_append, hnone, hnone', hcount, Turn.takenUp, hpending,
      List.append_nil, Nat.zero_add]
    rfl

/-! ## Sizes in the course of a window -/

/-- The renderer was only asked for sizes with an area, and the settings and the renderer have the
size that it was brought to last. Nothing else in the settings has changed. -/
structure SizeAgrees (d : Devices W α Raw Frame) (config : Config)
    (s : RecordedWindow W α β Raw Frame) : Prop where
  usable : Usable s.world.calls
  nonempty : s.config.size.isEmpty = false
  settled : settledSize? s.world.calls = some s.config.size
  shape : s.shape d.recorded = s.config.size
  config : s.config = { config with size := s.config.size }

omit [Scalar α] [Narrowing α β] [Scalar β] in
theorem Resettles.agrees {config : Config} (hd : d.Sized) (h : Resettles d s calls s')
    (hs : SizeAgrees d config s) : SizeAgrees d config s' := by
  have husable : Usable s'.world.calls := by
    rw [h.adds.record]
    exact hs.usable.append h.usable
  have hsize : s'.config.size = (settledSize? calls).getD s.config.size := by rw [h.config]
  have hsettled : settledSize? s'.world.calls = some s'.config.size := by
    rw [h.adds.record, settledSize?_append, hs.settled, hsize]
    cases settledSize? calls <;> rfl
  refine ⟨husable, husable.settled hsettled, hsettled, ?_, ?_⟩
  · calc s'.shape d.recorded
        = (settledSize? calls).getD (d.renderer.size s.world.world) := h.adds.trace.size hd
      _ = (settledSize? calls).getD s.config.size := by
        rw [show d.renderer.size s.world.world = s.config.size from hs.shape]
      _ = s'.config.size := hsize.symm
  · rw [h.config, hs.config]

omit [Scalar α] [Narrowing α β] [Scalar β] in
/-- Something from outside that touches neither the record nor the size of the renderer. -/
theorem SizeAgrees.outside {config : Config} (hs : SizeAgrees d config s)
    {g : Recorded W α Raw Frame → Recorded W α Raw Frame}
    (hg : ∀ w, ((g w).calls, d.renderer.size (g w).world) = (w.calls, d.renderer.size w.world)) :
    SizeAgrees d config (s.inWorld (g s.world)) := by
  obtain ⟨hcalls, hsize⟩ := Prod.mk.inj (hg s.world)
  refine ⟨?_, hs.nonempty, ?_, hsize.trans hs.shape, hs.config⟩
  · rw [inWorld_world, hcalls]
    exact hs.usable
  · rw [inWorld_world, hcalls]
    exact hs.settled

omit [Scalar α] [Narrowing α β] [Scalar β] in
/-- A window agrees once its first size was settled. -/
theorem Resettles.agrees_first (hd : d.Sized) (h : Resettles d s calls s')
    (hempty : s.world.calls = []) (hsome : (settledSize? calls).isSome = true) :
    SizeAgrees d s.config s' := by
  obtain ⟨size, hcalls⟩ := Option.isSome_iff_exists.1 hsome
  have hrecord : s'.world.calls = calls := by rw [h.adds.record, hempty, List.nil_append]
  have hconfig : s'.config = { s.config with size } := by rw [h.config, hcalls]; rfl
  have hsize : s'.config.size = size := by rw [hconfig]
  have hshape : s'.shape d.recorded = size := by
    have htrace := h.adds.trace.size hd
    rw [hcalls] at htrace
    exact htrace
  refine ⟨hrecord ▸ h.usable, ?_, ?_, hshape.trans hsize.symm, ?_⟩
  · rw [hsize]
    exact h.usable.settled hcalls
  · rw [hrecord, hcalls, hsize]
  · rw [hsize, hconfig]

section Opening

variable {config : Config} {world : W} {s₁ : RecordedWindow W α β Raw Frame}

theorem agrees_opening (hd : d.Sized) (hshow : config.showWindow = true)
    (hends : Ends d.recorded (fresh d.recorded config ⟨world, []⟩) (openingBatch config) ds
      (.ok (), s₁))
    (hprepare : exec (prepareForNextFrame d.recorded) s₁ = (.ok (), s)) :
    SizeAgrees d config s ∧ s.world.calls.countP Call.isResize =
      (ds.map Delivery.report).countP Report.isResize := by
  obtain ⟨hflat, hpath⟩ := hends.of_ok
  have hsettled : Resettles d (fresh d.recorded config ⟨world, []⟩)
      (ds.flatMap Delivery.calls) s₁ := by
    refine ⟨hpath.adds, hpath.usable, ?_⟩
    rw [settledSize?_flatMap_calls]
    exact hends.config_eq
  obtain ⟨hconfig, hprepared⟩ := (makes_prepareForNextFrame (d := d) (f := Window.config)
    (fun _ _ => rfl) fun _ _ => rfl).of_exec hprepare
  obtain ⟨prepared, hprepared, hnone⟩ := resettles_of_kinds _ (by decide) hconfig hprepared
  have hall := hsettled.append hprepared
  refine ⟨hall.agrees_first hd rfl ?_, ?_⟩
  · obtain ⟨g, rest, rfl⟩ := hflat.opening (by rw [openingBatch, hshow]; rfl)
    rw [settledSize?_append, List.flatMap_cons, settledSize?_append, Delivery.calls,
      settledSize?_settled]
    simp [Except.isOk, Except.toBool]
  · rw [hall.adds.record, List.countP_append, List.countP_append, hpath.countP_isResize, hnone]
    exact Nat.zero_add _

end Opening

omit [Scalar α] [Narrowing α β] [Scalar β] in
/-- What of the devices the size of a window hangs on. -/
def sizeView (d : Devices W α Raw Frame) (w : Recorded W α Raw Frame) :
    List (Call α Raw Frame) × Extent :=
  (w.calls, d.renderer.size w.world)

section Course

variable {config : Config} {world : W} {turns : List (Turn (Recorded W α Raw Frame) α β Raw)}

/-- However an operation ends, the sizes agree. -/
theorem SizeAgrees.perform (hd : d.Sized) (hs : SizeAgrees d config s) (hwired : s.Wired)
    (hop : op.Spares (sizeView d)) {res : Except Halt (Answer α β)}
    (h : exec (op.perform d.recorded) s = (res, s')) : SizeAgrees d config s' := by
  rcases hout : op.isOutside with _ | _
  · obtain ⟨calls, hcalls⟩ := exec_perform_resettles hwired hout h
    exact hcalls.agrees hd hs
  · cases op with
    | outside g =>
      cases h
      exact hs.outside hop
    | _ => cases hout

/-- Something from outside delivers nothing and takes nothing up. -/
theorem Step.outside {turn : Turn (Recorded W α Raw Frame) α β Raw}
    {g : Recorded W α Raw Frame → Recorded W α Raw Frame} (h : Step d.recorded s turn s')
    (hop : turn.operation = some (.outside g)) :
    turn.takenUp = [] ∧ s' = s.inWorld (g s.world) := by
  cases h with
  | @alone op a s' hpumps h =>
    obtain rfl : op = .outside g := Option.some.inj hop
    obtain ⟨ha, rfl⟩ := Prod.mk.inj h
    obtain rfl := ok_of_mapError ha
    exact ⟨rfl, rfl⟩
  | @refused op _ _ hpumps =>
    obtain rfl : op = .outside g := Option.some.inj hop
    cases hpumps
  | @interrupted op _ _ _ _ _ _ hpumps =>
    obtain rfl : op = .outside g := Option.some.inj hop
    cases hpumps
  | @pumped op _ _ _ _ _ _ _ hpumps =>
    obtain rfl : op = .outside g := Option.some.inj hop
    cases hpumps

theorem Step.agrees {turn : Turn (Recorded W α Raw Frame) α β Raw} (hd : d.Sized)
    (hs : SizeAgrees d config s) (h : Step d.recorded s turn s') (hout : turn.Spares (sizeView d)) :
    SizeAgrees d config s' ∧ s'.world.calls.countP Call.isResize =
      s.world.calls.countP Call.isResize + turn.takenUp.countP Report.isResize := by
  by_cases houtside : ∃ g, turn.operation = some (.outside g)
  · obtain ⟨g, hg⟩ := houtside
    obtain ⟨htaken, rfl⟩ := h.outside hg
    have hview := hout _ hg
    refine ⟨hs.outside hview, ?_⟩
    rw [htaken, inWorld_world, show (g s.world).calls = s.world.calls from
      (Prod.mk.inj (hview s.world)).1]
    rfl
  · -- any other turn accounts for the calls that it adds
    have hinside (op : Operation (Recorded W α Raw Frame)) (hop : turn.operation = some op) :
        op.isOutside = false := by
      cases op with
      | outside g => exact absurd ⟨g, hop⟩ houtside
      | _ => rfl
    obtain ⟨calls, hcalls, hcount⟩ := h.resettles hinside
    refine ⟨hcalls.agrees hd hs, ?_⟩
    rw [hcalls.adds.record, List.countP_append, hcount]

theorem Course.agrees (hd : d.Sized) (hshow : config.showWindow = true)
    (h : Course d.recorded config ⟨world, []⟩ turns s)
    (hout : ∀ turn ∈ turns, turn.Spares (sizeView d)) :
    SizeAgrees d config s ∧ s.world.calls.countP Call.isResize =
      (turns.flatMap Turn.takenUp).countP Report.isResize := by
  induction h with
  | @opened ds s₁ s hopen hends hprepare =>
    obtain ⟨hagrees, hcount⟩ := agrees_opening hd hshow hends hprepare
    refine ⟨hagrees, ?_⟩
    rw [hcount]
    simp [Turn.takenUp, Except.isOk, Except.toBool]
  | @next turns s turn s' hcourse hstep ih =>
    obtain ⟨hs, hcount⟩ := ih fun turn hturn => hout turn (List.mem_append_left _ hturn)
    obtain ⟨hs', hstep⟩ := hstep.agrees hd hs (hout turn (List.mem_append_right _ (.head _)))
    refine ⟨hs', ?_⟩
    rw [hstep, hcount, List.flatMap_append, List.countP_append]
    simp

/-- A course takes up the opening report first. -/
theorem Course.takenUp (hshow : config.showWindow = true)
    (h : Course d.recorded config ⟨world, []⟩ turns s) :
    ∃ later, turns.flatMap Turn.takenUp = .opening :: later := by
  induction h with
  | opened _ hends =>
    obtain ⟨g, rest, rfl⟩ := hends.of_ok.1.opening (by rw [openingBatch, hshow]; rfl)
    exact ⟨_, rfl⟩
  | next _ _ ih =>
    obtain ⟨later, hlater⟩ := ih
    rw [List.flatMap_append, hlater]
    exact ⟨_, rfl⟩

/-- In every course of a visible window, and after every further operation however it ends, the
renderer was asked for sizes with an area only, and the settings and the renderer have the size that
it was brought to last; the other settings never change. The cursor is where its last report has put
it as fractions of the size of that moment, which always has an area. The renderer was asked for a
size once in opening the window, and once for each report of a new one that was taken up since. -/
theorem size_agreement (hd : d.Sized) (hshow : config.showWindow = true)
    (h : Course d.recorded config ⟨world, []⟩ turns s)
    (hout : ∀ turn ∈ turns, turn.Spares (sizeView d)) :
    SizeAgrees d config s ∧
      (∀ (op : Operation (Recorded W α Raw Frame)) res s', op.Spares (sizeView d) →
        exec (op.perform d.recorded) s = (res, s') → SizeAgrees d config s') ∧
      (∀ before after, history turns = before ++ after →
        (lastSize config.size before).isEmpty = false) ∧
      s.input.position = lastPlace config.size (Scalar.ofNat 0, Scalar.ofNat 0) (history turns) ∧
      ∃ later, turns.flatMap Turn.takenUp = .opening :: later ∧
        s.world.calls.countP Call.isResize = later.countP Report.isResize + 1 := by
  obtain ⟨hagrees, hcount⟩ := h.agrees hd hshow hout
  obtain ⟨later, hlater⟩ := h.takenUp hshow
  refine ⟨hagrees, fun op res s' hop hexec => hagrees.perform hd h.wired hop hexec,
    fun before after hbefore => h.lastSize_nonempty hbefore, h.position_eq, later, hlater, ?_⟩
  rw [hcount, hlater]
  exact List.countP_cons_of_pos rfl

end Course

end Operations

/-! ## A size that is refused -/

theorem size_perform {r : Type} (task : Script.Task)
    (f : Script.Easel → Except BackendError r × Script.Easel) (e : Script.Easel)
    (hf : (f e).2.size = e.size) : (Script.Easel.perform task f e).2.size = e.size := by
  unfold Script.Easel.perform
  split
  · rfl
  · exact hf

omit [Scalar α] in
theorem sized_script : (Script.devices : Devices (Script.Stage α Raw) α Raw Nat).Sized := by
  refine sized_ofParts (fun size w => ?_) (fun frame w => size_perform _ _ w rfl)
    (fun w => size_perform _ _ w rfl) (fun w => size_perform _ _ w rfl)
    (fun path w => size_perform _ _ w rfl) (fun target w => size_perform _ _ w rfl) fun w => rfl
  show (Script.Easel.perform .resize (fun e => (.ok (), { e with size })) w).2.size =
    if (Script.Easel.perform .resize (fun e => (.ok (), { e with size })) w).1.isOk then size
    else w.size
  unfold Script.Easel.perform
  split <;> rfl

/-- A stage where two polls bring reports of new sizes and of places, and the first has to wait. -/
def resizingStage : Script.Stage Rat Unit where
  platform :=
    { polls := [[⟨some (.resized ⟨0, 0⟩), none⟩, ⟨some (.cursorMoved 1 1), none⟩],
        [⟨some (.resized ⟨9, 9⟩), none⟩, ⟨some (.cursorMoved 160 50), none⟩]]
      waits := [[⟨some (.key (.key .keyA) .press), none⟩]]
      sizes := [⟨640, 480⟩, ⟨0, 0⟩, ⟨800, 600⟩, ⟨320, 200⟩]
      size := ⟨640, 480⟩ }
  renderer := { size := ⟨640, 480⟩ }
  gui := {}
  clock := {}

/-- The renderer will refuse the next size. -/
def refuseSize (w : Recorded (Script.Stage Rat Unit) Rat Unit Nat) :
    Recorded (Script.Stage Rat Unit) Rat Unit Nat :=
  { w with
    world := { w.world with
      renderer := { w.world.renderer with failures := [(.resize, .surface "lost")] } } }

def resizingWindow : RecordedWindow (Script.Stage Rat Unit) Rat Rat Unit Nat :=
  (openWith Script.devices.recorded {} ⟨resizingStage, []⟩).2

/-- The first poll, with its answer and the window that it leaves. -/
def refusedPoll :
    Except Halt (Answer Rat Rat) × RecordedWindow (Script.Stage Rat Unit) Rat Rat Unit Nat :=
  exec ((Operation.pollEvents .any).perform Script.devices.recorded)
    (resizingWindow.inWorld (refuseSize resizingWindow.world))

/-- The second poll, after the first has failed. -/
def settledPoll :
    Except Halt (Answer Rat Rat) × RecordedWindow (Script.Stage Rat Unit) Rat Rat Unit Nat :=
  exec ((Operation.pollEvents .any).perform Script.devices.recorded) refusedPoll.2

theorem size_agreement_refused :
    refusedPoll.1 = .error (.failed (.backend (.surface "lost"))) ∧
      SizeAgrees Script.devices {} settledPoll.2 ∧ settledPoll.2.config.size = ⟨320, 200⟩ ∧
      settledPoll.2.input.position = (1 / 2, 1 / 4) ∧
      settledPoll.2.world.calls.countP Call.isResize = 3 := by
  obtain ⟨ds, h⟩ := exists_opened
    (show openWith Script.devices.recorded {} ⟨resizingStage, []⟩ = (.ok (), resizingWindow) from
      rfl)
  obtain ⟨batch₁, ds₁, h₁⟩ := h.exists_next (.outside refuseSize) (.ok .done) rfl
  obtain ⟨batch₂, ds₂, h₂⟩ := h₁.exists_next (.pollEvents .any)
    (.error (.backend (.surface "lost"))) (show _ = (_, refusedPoll.2) from rfl)
  obtain ⟨batch₃, ds₃, h₃⟩ := h₂.exists_next (.pollEvents .any) (.ok (.events []))
    (show _ = (_, settledPoll.2) from rfl)
  have hspares : (Operation.outside refuseSize).Spares (sizeView Script.devices) := fun _ => rfl
  obtain ⟨hagrees, -⟩ := size_agreement sized_script rfl h₃
    (spares_next (spares_next (spares_next spares_opened _ hspares) (.pollEvents .any) trivial)
      (.pollEvents .any) trivial)
  exact ⟨rfl, hagrees, by decide +kernel, by decide +kernel, by decide +kernel⟩

end Window

end WindowHost
