import WindowHost.Proofs.Order
import WindowHost.Proofs.Size

/-!
# What a refused resize loses

While events are handed over, reports sit in lists of the running operation: the rest of a batch,
and what the waits for a size have deferred. If the renderer refuses a size, the operation fails and
those lists are gone (`Turn.Loses`). Main statement: at every point of a course the button events
that the platform has given out are the ones that were returned, the ones that wait in the queue and
the lost ones. So they are all accounted for exactly when the losses hold no button event.
-/

namespace WindowHost

variable {W α β Raw Frame : Type}

/-! ## What the platform has given out -/

/-- The reports that a call has brought from the platform. -/
def Call.reports : Call α Raw Frame → List (Report α Raw)
  | .poll batch | .wait batch => batch
  | _ => []

/-- The reports that the platform has given out, in their order. -/
def givenOut (calls : List (Call α Raw Frame)) : List (Report α Raw) := calls.flatMap Call.reports

/-- The reports that do not tell of a new size. -/
def sizeless (reports : List (Report α Raw)) : List (Report α Raw) :=
  reports.filter fun r => !r.isResize

/-- The button events of some reports. -/
def transitions (reports : List (Report α Raw)) : List Event := reports.filterMap Report.event?

section GivenOut

variable {calls calls' : List (Call α Raw Frame)} {kinds : List Call.Kind}

theorem givenOut_append : givenOut (calls ++ calls') = givenOut calls ++ givenOut calls' :=
  List.flatMap_append

theorem givenOut_of_kinds (h : OfKinds kinds calls) (hk : .pumping ∉ kinds) :
    givenOut calls = [] := by
  refine List.flatMap_eq_nil_iff.2 fun call hcall => ?_
  have hkind := h call hcall
  cases call with
  | poll | wait => exact absurd hkind hk
  | _ => rfl

theorem Report.givenOut_calls (r : Report α Raw) :
    givenOut (r.calls : List (Call α Raw Frame)) = [] := by
  rcases r with ⟨o, _ | raw⟩ <;> rfl

theorem Settling.givenOut_calls (g : Settling α Raw) :
    givenOut (g.calls : List (Call α Raw Frame)) = g.deferred := by
  obtain ⟨waits, size⟩ := g
  have hwaits : givenOut ((waits.flatMap fun x => [.framebufferSize x.1, .wait x.2]) :
      List (Call α Raw Frame)) = waits.flatMap (·.2) := by
    induction waits with
    | nil => rfl
    | cons x waits ih =>
      rw [List.flatMap_cons, givenOut_append, ih]
      simp [givenOut, Call.reports]
  unfold Settling.calls
  rw [givenOut_append, hwaits]
  exact List.append_nil _

theorem givenOut_settled (r : Report α Raw) (g : Settling α Raw)
    (outcome : Except BackendError Unit) :
    givenOut (r.calls ++ g.calls ++ [.resize g.size outcome] : List (Call α Raw Frame)) =
      g.deferred := by
  rw [givenOut_append, givenOut_append, r.givenOut_calls, g.givenOut_calls]
  exact List.append_nil _

theorem givenOut_flatMap_calls (ds : List (Delivery α Raw)) :
    givenOut (ds.flatMap Delivery.calls : List (Call α Raw Frame)) =
      ds.flatMap Delivery.deferred := by
  induction ds with
  | nil => rfl
  | cons x ds ih =>
    rw [List.flatMap_cons, givenOut_append, ih]
    cases x with
    | plain r => rw [Delivery.calls, r.givenOut_calls]; rfl
    | resized r g => rw [Delivery.calls, givenOut_settled]; rfl

end GivenOut

/-- What was there and what was deferred is what was delivered and what is pending. -/
theorem Works.perm_pending {rs : List (Report α Raw)} {ds ds' : List (Delivery α Raw)}
    (h : Works rs (ds ++ ds')) :
    (rs ++ ds.flatMap Delivery.deferred).Perm (ds.map Delivery.report ++ pending rs ds) := by
  induction ds generalizing rs with
  | nil => cases rs <;> simp [pending]
  | cons x ds ih =>
    cases h with
    | @cons _ rs _ hrest =>
      -- what the report defers comes before all that was there, so only the order differs
      have hfront : (x.report :: rs ++ (x.deferred ++ ds.flatMap Delivery.deferred)).Perm
          (x.report :: (x.deferred ++ rs ++ ds.flatMap Delivery.deferred)) := by
        rw [List.cons_append, List.append_assoc]
        exact (List.perm_append_comm_assoc _ _ _).cons x.report
      exact hfront.trans ((ih hrest).cons x.report)

/-- Before a report of a new size is delivered, it is the first one that is pending. -/
theorem Flatten.pending_resized {batch : List (Report α Raw)} {ds rest : List (Delivery α Raw)}
    {r : Report α Raw} {g : Settling α Raw} (h : Flatten batch (ds ++ .resized r g :: rest)) :
    r.isResize = true ∧ ∃ todo, pending batch ds = r :: todo ∧
      (batch ++ ds.flatMap Delivery.deferred).Perm (ds.map Delivery.report ++ r :: todo) := by
  have hrest := h.works.pending_append
  have hperm := h.works.perm_pending
  generalize pending batch ds = rs at hrest hperm
  cases hrest
  exact ⟨h.isResize (List.mem_append_right _ List.mem_cons_self), _, rfl, hperm⟩

section Sizeless

variable (reports reports' : List (Report α Raw))

theorem sizeless_append : sizeless (reports ++ reports') = sizeless reports ++ sizeless reports' :=
  List.filter_append ..

theorem sizeless_cons_of_isResize {r : Report α Raw} (hr : r.isResize = true) :
    sizeless (r :: reports) = sizeless reports := by
  simp [sizeless, hr]

/-- What a new size says nothing of is all in the other reports. -/
theorem filterMap_sizeless {t : Type} {f : Report α Raw → Option t}
    (hf : ∀ r : Report α Raw, r.isResize = true → f r = none) :
    (sizeless reports).filterMap f = reports.filterMap f := by
  induction reports with
  | nil => rfl
  | cons r reports ih =>
    by_cases hr : r.isResize = true
    · rw [sizeless_cons_of_isResize _ hr, ih, List.filterMap_cons, hf r hr]
    · have hcons : sizeless (r :: reports) = r :: sizeless reports := by simp [sizeless, hr]
      rw [hcons, List.filterMap_cons, List.filterMap_cons, ih]

end Sizeless

/-! ## What a turn loses -/

/-- The calls with which a size is settled that the renderer then refuses. -/
def Settling.refusal (g : Settling α Raw) (r : Report α Raw) (e : BackendError) :
    List (Call α Raw Frame) :=
  r.calls ++ g.calls ++ [.resize g.size (.error e)]

/-- What a turn with those calls has lost. Nothing is lost if nothing of the batch is pending. If
the renderer refuses a size, what the waits for that size have deferred and what is pending after
its report are lost. -/
inductive Turn.Loses (turn : Turn W α β Raw) :
    List (Call α Raw Frame) → List (Report α Raw) → Prop where
  | nothing {calls} : pending turn.batch turn.delivered = [] → turn.Loses calls []
  | refused {before} {r : Report α Raw} {g : Settling α Raw} {e todo} :
      turn.answer = .error (.backend e) → r.isResize = true →
      pending turn.batch turn.delivered = r :: todo →
      turn.Loses (before ++ g.refusal r e) (g.deferred ++ todo)

/-- The turns of a record one after the other, and what was lost in them. -/
inductive Losses :
    List (Turn W α β Raw) → List (Call α Raw Frame) → List (Report α Raw) → Prop where
  | nil : Losses [] [] []
  | next {turns record lost turn calls more} : Losses turns record lost → turn.Loses calls more →
      Losses (turns ++ [turn]) (record ++ calls) (lost ++ more)

/-- While no operation is refused a size, nothing is lost. -/
theorem Losses.eq_nil {turns : List (Turn W α β Raw)} {record : List (Call α Raw Frame)}
    {lost : List (Report α Raw)} (h : Losses turns record lost)
    (hok : ∀ turn ∈ turns, ∀ e, turn.answer ≠ .error (.backend e)) : lost = [] := by
  induction h with
  | nil => rfl
  | @next turns record lost turn calls more _ hmore ih =>
    have hlast := hok turn (List.mem_append_right _ (.head _))
    rw [ih fun turn hturn => hok turn (List.mem_append_left _ hturn)]
    cases hmore with
    | nothing => rfl
    | refused hanswer => exact absurd hanswer (hlast _)

namespace Window

open Recorded (Adds)

variable [Scalar α] [Narrowing α β] {d : Devices W α Raw Frame}
  {s s' : RecordedWindow W α β Raw Frame} {batch : List (Report α Raw)}
  {ds : List (Delivery α Raw)}

/-- A pump that succeeds delivers all that it was given. -/
theorem Ends.delivers (h : Ends d.recorded s batch ds (.ok (), s')) :
    pending batch ds = [] ∧
      Adds d s.world (ds.flatMap Delivery.calls) s'.world ∧
      (sizeless (batch ++ givenOut (ds.flatMap Delivery.calls : List (Call α Raw Frame)))).Perm
        (sizeless (ds.map Delivery.report)) := by
  obtain ⟨hflat, hpath⟩ := h.of_ok
  have hworks := hflat.works
  rw [← List.append_nil ds] at hworks
  have hperm := hworks.perm_pending
  rw [hflat.pending_nil, List.append_nil] at hperm
  refine ⟨hflat.pending_nil, hpath.adds, ?_⟩
  rw [givenOut_flatMap_calls]
  exact hperm.filter _

/-- A pump that fails loses what is pending and what was deferred last. -/
theorem Ends.loses {e : WindowError} (h : Ends d.recorded s batch ds (.error (.failed e), s')) :
    ∃ (r : Report α Raw) (g : Settling α Raw) (e' : BackendError) (todo : List (Report α Raw)),
      e = .backend e' ∧ r.isResize = true ∧ pending batch ds = r :: todo ∧
      Adds d s.world (ds.flatMap Delivery.calls ++ g.refusal r e') s'.world ∧
      (sizeless (batch ++ givenOut (ds.flatMap Delivery.calls ++ g.refusal r e' :
        List (Call α Raw Frame)))).Perm
        (sizeless (ds.map Delivery.report) ++ sizeless (g.deferred ++ todo)) := by
  cases h with
  | refused hflat hpath hwaits _ hresize =>
    obtain ⟨hr, todo, htodo, hperm⟩ := hflat.pending_resized
    refine ⟨_, _, _, todo, rfl, hr, htodo,
      hpath.adds.append (Recorded.adds_settled hwaits hresize), ?_⟩
    have hsizeless : (sizeless _).Perm (sizeless _) := hperm.filter _
    rw [givenOut_append, givenOut_flatMap_calls, Settling.refusal, givenOut_settled,
      ← List.append_assoc, sizeless_append]
    refine (hsizeless.append_right _).trans ?_
    rw [sizeless_append, sizeless_cons_of_isResize _ hr, sizeless_append, List.append_assoc]
    exact List.perm_append_comm.append_left _

omit [Scalar α] [Narrowing α β] in
/-- A poll gives out its batch. -/
theorem poll_givesOut {w : Recorded W α Raw Frame}
    (h : d.recorded.platform.poll s.world = (batch, w)) :
    w.calls = s.world.calls ++ [.poll batch] := by
  obtain ⟨rfl, rfl⟩ := Prod.mk.inj h
  rfl

omit [Scalar α] [Narrowing α β] in
theorem givenOut_polled {before calls : List (Call α Raw Frame)} (h : givenOut before = []) :
    givenOut (before ++ .poll batch :: calls) = batch ++ givenOut calls := by
  rw [givenOut_append, h]
  rfl

section Steps

variable [Scalar β] {config : Config} {world : W}
  {turns : List (Turn (Recorded W α Raw Frame) α β Raw)}
  {turn : Turn (Recorded W α Raw Frame) α β Raw} {op : Operation (Recorded W α Raw Frame)}

omit [Scalar α] [Narrowing α β] [Scalar β] in
/-- Before it pumps, an operation gets no reports. -/
theorem lead_givesOut {res : Except Halt Unit} (h : exec (op.lead d.recorded) s = (res, s')) :
    ∃ calls, s'.world.calls = s.world.calls ++ calls ∧ givenOut calls = [] := by
  obtain ⟨-, calls, hadds, hkinds⟩ := (Operation.makes_lead (d := d)
    (f := fun _ : RecordedWindow W α β Raw Frame => ()) (fun _ _ => rfl) (fun _ _ => rfl)
    op).of_exec h
  exact ⟨calls, hadds.record, givenOut_of_kinds hkinds (by decide)⟩

/-- After it has pumped, an operation gets no reports. -/
theorem tail_givesOut (hop : op.Spares Recorded.calls) {res : Except Halt (Answer α β)}
    (h : exec (op.tail d.recorded) s = (res, s')) :
    ∃ calls, s'.world.calls = s.world.calls ++ calls ∧ givenOut calls = [] := by
  rcases hpumps : op.pumps with _ | _
  · rw [Operation.tail_of_not_pumps _ hpumps] at h
    rcases hout : op.isOutside with _ | _
    · obtain ⟨-, calls, hadds, hkinds⟩ := (Operation.makes_perform (d := d)
        (f := fun _ : RecordedWindow W α β Raw Frame => ()) (fun _ _ => rfl) (fun _ _ => rfl)
        (fun _ _ => rfl) (fun _ _ => rfl) (fun _ => rfl) hpumps hout).of_exec h
      exact ⟨calls, hadds.record, givenOut_of_kinds hkinds (by decide)⟩
    · cases op with
      | outside g =>
        cases h
        exact ⟨[], (hop s.world).trans (List.append_nil _).symm, rfl⟩
      | _ => cases hout
  · obtain ⟨calls, hadds, hkinds⟩ := exec_tail_pumps hpumps h
    exact ⟨calls, hadds.record, givenOut_of_kinds hkinds (by decide)⟩

/-- The reports that a turn was given, but for new sizes, are the ones that it has delivered and the
ones that it has lost. -/
theorem Step.loses (h : Step d.recorded s turn s') (hspares : turn.Spares Recorded.calls) :
    ∃ calls lost, s'.world.calls = s.world.calls ++ calls ∧ turn.Loses calls lost ∧
      (sizeless (givenOut calls)).Perm
        (sizeless (turn.delivered.map Delivery.report) ++ sizeless lost) := by
  cases h with
  | @alone op a s' hop h =>
    rw [← Operation.tail_of_not_pumps d.recorded hop] at h
    obtain ⟨calls, hcalls, hnone⟩ := tail_givesOut (hspares op rfl) h
    refine ⟨calls, [], hcalls, .nothing rfl, ?_⟩
    rw [hnone]
    exact .refl _
  | @refused op e s' hop h =>
    obtain ⟨calls, hcalls, hnone⟩ := lead_givesOut h
    refine ⟨calls, [], hcalls, .nothing rfl, ?_⟩
    rw [hnone]
    exact .refl _
  | @interrupted op s₁ w batch ds e s' hop hlead hpoll hpump hends =>
    obtain ⟨before, hbefore, hnone⟩ := lead_givesOut hlead
    obtain ⟨r, g, e, todo, rfl, hr, htodo, hadds, hperm⟩ := hends.loses
    have hrecord := hadds.record
    rw [inWorld_world, poll_givesOut hpoll, hbefore] at hrecord
    refine ⟨before ++ .poll batch :: ds.flatMap Delivery.calls ++ g.refusal r e, g.deferred ++ todo,
      ?_, .refused rfl hr htodo, ?_⟩
    · rw [hrecord]
      simp
    · rw [List.append_assoc, List.cons_append, givenOut_polled hnone]
      exact hperm
  | @pumped op s₁ w batch ds s₂ a s' hop hlead hpoll hpump hends htail =>
    obtain ⟨before, hbefore, hnone⟩ := lead_givesOut hlead
    obtain ⟨hpending, hadds, hperm⟩ := hends.delivers
    obtain ⟨after, hafter, hnone'⟩ := tail_givesOut (hspares op rfl) htail
    have hrecord := hadds.record
    rw [inWorld_world, poll_givesOut hpoll, hbefore] at hrecord
    refine ⟨before ++ .poll batch :: (ds.flatMap Delivery.calls ++ after), [], ?_,
      .nothing hpending, ?_⟩
    · rw [hafter, hrecord]
      simp
    · rw [givenOut_polled hnone, givenOut_append, hnone', List.append_nil]
      exact hperm.trans (by simp [sizeless])

/-- The record of a course turn by turn, with what was lost in it. -/
theorem Course.losses (h : Course d.recorded config ⟨world, []⟩ turns s)
    (hout : ∀ turn ∈ turns, turn.Spares Recorded.calls) :
    ∃ lost, Losses turns s.world.calls lost ∧
      (sizeless (givenOut s.world.calls)).Perm
        (sizeless ((history turns).map Delivery.report) ++ sizeless lost) := by
  induction h with
  | @opened ds s₁ s hopen hends hprepare =>
    obtain ⟨hpending, hadds, hperm⟩ := hends.delivers
    obtain ⟨-, after, hafter, hkinds⟩ := (makes_prepareForNextFrame (d := d)
      (f := fun _ : RecordedWindow W α β Raw Frame => ()) (fun _ _ => rfl) fun _ _ => rfl).of_exec
      hprepare
    have hrecord : s.world.calls = [] ++ (ds.flatMap Delivery.calls ++ after) :=
      (hadds.append hafter).record
    have hopening : sizeless (openingBatch config : List (Report α Raw)) = [] := by
      unfold openingBatch
      split <;> rfl
    rw [sizeless_append, hopening, List.nil_append] at hperm
    rw [hrecord]
    refine ⟨[], .next .nil (.nothing hpending), ?_⟩
    rw [List.nil_append, givenOut_append, givenOut_of_kinds hkinds (by decide),
      List.append_nil, history_singleton]
    exact hperm.trans (by simp [sizeless])
  | @next turns s turn s' hcourse hstep ih =>
    obtain ⟨lost, hlosses, hperm⟩ := ih fun turn hturn => hout turn (List.mem_append_left _ hturn)
    obtain ⟨calls, more, hcalls, hmore, hperm'⟩ :=
      hstep.loses (hout turn (List.mem_append_right _ (.head _)))
    rw [hcalls, history_append, history_singleton]
    refine ⟨lost ++ more, .next hlosses hmore, ?_⟩
    rw [givenOut_append, sizeless_append, sizeless_append, List.map_append, sizeless_append,
      List.append_assoc]
    refine (hperm.append hperm').trans ?_
    rw [List.append_assoc]
    exact (List.perm_append_comm_assoc _ _ _).append_left _

/-- The button events that were delivered are the ones that were returned and the ones that wait. -/
theorem Course.delivered_perm {d : Devices W α Raw Frame} {s : Window W α β}
    {turns : List (Turn W α β Raw)} (h : Course d config world turns s) :
    (Delivery.events (history turns)).Perm (turns.flatMap Turn.handed ++ s.events.waiting) := by
  have hperm := (Ledger.sound_ofTurns turns).perm.map Prod.fst
  rw [List.map_append, ← h.ledger.2, ← h.ledger.1, List.zipIdx_map_fst, arrived_ofTurns] at hperm
  exact hperm.symm

/-- At every point of a course there are reports that were lost to refused sizes, and none if no
operation has failed for the renderer. The button events that the platform has given out are the
ones that were returned, the ones that wait and the lost ones; so all are accounted for exactly when
the losses hold none. The same goes for each button: what it has done is what was delivered and what
was lost, and whether it counts as down follows from what was delivered alone. -/
theorem transitions_accounted (h : Course d.recorded config ⟨world, []⟩ turns s)
    (hout : ∀ turn ∈ turns, turn.Spares Recorded.calls) :
    ∃ lost, Losses turns s.world.calls lost ∧
      ((∀ turn ∈ turns, ∀ e, turn.answer ≠ .error (.backend e)) → lost = []) ∧
      (transitions (givenOut s.world.calls)).Perm
        (turns.flatMap Turn.handed ++ s.events.waiting ++ transitions lost) ∧
      ((transitions (givenOut s.world.calls)).Perm
          (turns.flatMap Turn.handed ++ s.events.waiting) ↔ transitions lost = []) ∧
      ∀ b, (actionsOn b (givenOut s.world.calls)).Perm
          (actionsOn b ((history turns).map Delivery.report) ++ actionsOn b lost) ∧
        s.input.isPressed b =
          downAfter false (actionsOn b ((history turns).map Delivery.report)) := by
  obtain ⟨lost, hlosses, hsizeless⟩ := h.losses hout
  have hkeep {t : Type} {f : Report α Raw → Option t}
      (hf : ∀ r : Report α Raw, r.isResize = true → f r = none) :
      ((givenOut s.world.calls).filterMap f).Perm
        (((history turns).map Delivery.report).filterMap f ++ lost.filterMap f) := by
    have hperm := hsizeless.filterMap f
    rwa [List.filterMap_append, filterMap_sizeless _ hf, filterMap_sizeless _ hf,
      filterMap_sizeless _ hf] at hperm
  have hevents : (transitions (givenOut s.world.calls)).Perm
      (turns.flatMap Turn.handed ++ s.events.waiting ++ transitions lost) := by
    refine (hkeep fun r hr => Report.event?_of_isResize hr).trans (.append_right _ ?_)
    rw [List.filterMap_map]
    exact h.delivered_perm
  refine ⟨lost, hlosses, hlosses.eq_nil, hevents, ⟨fun hall => ?_, fun hnone => ?_⟩,
    fun b => ⟨hkeep fun r hr => Report.actionOn?_of_isResize hr b, h.isPressed b⟩⟩
  · have hlength := (hevents.symm.trans hall).length_eq
    rw [List.length_append] at hlength
    exact List.eq_nil_of_length_eq_zero (by omega)
  · rwa [hnone, List.append_nil] at hevents

/-- A stage where a key goes down, and comes up in the batch of a new size. -/
def keyStage : Script.Stage Rat Unit where
  platform :=
    { polls := [[⟨some (.key (.key .keyA) .press), none⟩],
        [⟨some (.resized ⟨800, 600⟩), none⟩, ⟨some (.key (.key .keyA) .release), none⟩]]
      size := ⟨640, 480⟩ }
  renderer := { size := ⟨640, 480⟩ }
  gui := {}
  clock := {}

/-- Taking all events, with the answer and the window that it leaves. -/
def takeEvents (s : RecordedWindow (Script.Stage Rat Unit) Rat Rat Unit Nat) :
    Except Halt (Answer Rat Rat) × RecordedWindow (Script.Stage Rat Unit) Rat Rat Unit Nat :=
  exec ((Operation.pollEvents .any).perform Script.devices.recorded) s

/-- The window in which the key is down, where the renderer will refuse the next size. -/
def keyWindow : RecordedWindow (Script.Stage Rat Unit) Rat Rat Unit Nat :=
  let s := (takeEvents (openWith Script.devices.recorded {} ⟨keyStage, []⟩).2).2
  s.inWorld (refuseSize s.world)

/-- After a poll that fails and one that succeeds. -/
def staleWindow : RecordedWindow (Script.Stage Rat Unit) Rat Rat Unit Nat :=
  (takeEvents (takeEvents keyWindow).2).2

theorem course_staleWindow :
    ∃ turns, Course Script.devices.recorded {} ⟨keyStage, []⟩ turns staleWindow ∧
      (∀ turn ∈ turns, turn.Spares Recorded.calls) ∧
      turns.flatMap Turn.handed = [⟨.press, "A"⟩] ∧
      turns.getLast?.map (fun turn => turn.answer.isOk) = some true := by
  obtain ⟨ds, h⟩ := exists_opened
    (show openWith Script.devices.recorded {} ⟨keyStage, []⟩ = (.ok (), _) from rfl)
  obtain ⟨batch₁, ds₁, h₁⟩ := h.exists_next (.pollEvents .any) (.ok (.events [⟨.press, "A"⟩]))
    (show _ = (_, _) from rfl)
  obtain ⟨batch₂, ds₂, h₂⟩ := h₁.exists_next (.outside refuseSize) (.ok .done)
    (show _ = (_, keyWindow) from rfl)
  obtain ⟨batch₃, ds₃, h₃⟩ := h₂.exists_next (.pollEvents .any)
    (.error (.backend (.surface "lost"))) (show _ = (_, (takeEvents keyWindow).2) from rfl)
  obtain ⟨batch₄, ds₄, h₄⟩ := h₃.exists_next (.pollEvents .any) (.ok (.events []))
    (show _ = (_, staleWindow) from rfl)
  have hspares : (Operation.outside refuseSize).Spares
      (Recorded.calls : Recorded (Script.Stage Rat Unit) Rat Unit Nat → _) := fun _ => rfl
  exact ⟨_, h₄, spares_next (spares_next (spares_next (spares_next spares_opened
    (.pollEvents .any) trivial) _ hspares) (.pollEvents .any) trivial) (.pollEvents .any) trivial,
    rfl, rfl⟩

theorem transitions_accounted_refused :
    ∃ turns lost, Course Script.devices.recorded {} ⟨keyStage, []⟩ turns staleWindow ∧
      Losses turns staleWindow.world.calls lost ∧ transitions lost = [⟨.release, "A"⟩] := by
  obtain ⟨turns, h, hout, hhanded, -⟩ := course_staleWindow
  obtain ⟨lost, hlosses, -, hperm, -⟩ := transitions_accounted h hout
  have hgiven : transitions (givenOut staleWindow.world.calls) =
      [⟨.press, "A"⟩, ⟨.release, "A"⟩] := by decide +kernel
  have hwaiting : staleWindow.events.waiting = [] := by decide +kernel
  rw [hgiven, hhanded, hwaiting] at hperm
  exact ⟨turns, lost, h, hlosses, (List.singleton_perm.1 hperm.cons_inv).symm⟩

/-- A key that comes up without a trace: the resize before it in its batch is refused, and a later
poll that succeeds does not bring it. -/
theorem release_lost :
    ∃ turns, Course Script.devices.recorded {} ⟨keyStage, []⟩ turns staleWindow ∧
      turns.getLast?.map (fun turn => turn.answer.isOk) = some true ∧
      ¬ (transitions (givenOut staleWindow.world.calls)).Perm
        (turns.flatMap Turn.handed ++ staleWindow.events.waiting) ∧
      actionsOn (.key .keyA) (givenOut staleWindow.world.calls) = [.press, .release] ∧
      staleWindow.input.isPressed (.key .keyA) = true := by
  obtain ⟨turns, h, -, hhanded, hlast⟩ := course_staleWindow
  refine ⟨turns, h, hlast, ?_, by decide +kernel, by decide +kernel⟩
  rw [hhanded]
  decide +kernel

end Steps

end Window

end WindowHost
