import WindowHost.Proofs.HostCursor
import WindowHost.Proofs.Pumping
import WindowHost.Proofs.Record

/-!
# Closing a window

Whether a native window should close is decided by whoever spoke last. `Say` is what may decide it:
the host program asks for it or takes that back, or the event loop is pumped, which decides only if
this window was asked to close or the loop has ended. `Attended` is a run with all that was said in
it, also by the pumps within an operation that waits for a size or fails.
-/

namespace WindowHost

/-! ## What operations call -/

/-- All kinds of call but those for closing. -/
def Call.Kind.unclosing : List Call.Kind :=
  [.drawing, .presenting, .reading, .preparing, .pumping, .resizing, .pacing, .titling,
    .suppressing, .steering, .reclaiming]

/-- What the host program asks for. -/
def Operation.asked? {W : Type} : Operation W → Option Bool
  | .requestStop stop => some stop
  | _ => none

namespace Window

variable {W α β Raw Frame : Type} [Scalar α] [Narrowing α β] [Scalar β]

theorem exec_requestStop_eq (d : Devices W α Raw Frame) (stop : Bool) (s : Window W α β) :
    exec ((Operation.requestStop stop).perform d) s =
      (.ok .done, if s.config.showWindow then s.inWorld (d.platform.setCloseRequested stop s.world)
        else s) := by
  rw [Operation.perform, exec_bind, requestStop, exec_bind_of_ok (exec_get s)]
  rcases s.config.showWindow with _ | _ <;> rfl

variable {d : Devices W α Raw Frame} {s s' : RecordedWindow W α β Raw Frame}
  {op : Operation (Recorded W α Raw Frame)}

/-- Only a request of the host program makes a call for closing. -/
theorem exec_perform_makes (hs : s.Wired) (hout : op.isOutside = false)
    {res : Except Halt (Answer α β)} (h : exec (op.perform d.recorded) s = (res, s')) :
    ∃ calls, Recorded.Adds d s.world calls s'.world ∧
      OfKinds (Call.Kind.unclosing ++ op.closing) calls := by
  let shut (_ : RecordedWindow W α β Raw Frame) : Unit := ()
  have hblind : Blind shut := fun _ _ => rfl
  rcases hpumps : op.pumps with _ | _
  · obtain ⟨-, calls, hcalls, hkinds⟩ := (Operation.makes_perform_closing (d := d) hblind
      (fun _ _ => rfl) (fun _ _ => rfl) (fun _ _ => rfl) (fun _ => rfl) hpumps hout).of_exec h
    refine ⟨calls, hcalls, hkinds.mono (List.append_subset.2 ⟨?_, List.subset_append_right _ _⟩)⟩
    exact List.Subset.trans (by decide) (List.subset_append_left Call.Kind.unclosing _)
  · have hdeaf : Deaf d.recorded shut :=
      ⟨fun _ => rfl, fun _ => rfl, fun _ => rfl, fun _ _ => rfl, fun _ _ => rfl, fun _ _ _ => rfl,
        fun _ _ => rfl⟩
    have hmono {kinds : List Call.Kind} {calls : List (Call α Raw Frame)}
        (hsub : kinds ⊆ Call.Kind.unclosing) (hkinds : OfKinds kinds calls) :
        OfKinds (Call.Kind.unclosing ++ op.closing) calls :=
      hkinds.mono (List.Subset.trans hsub (List.subset_append_left _ _))
    have hfirst {r : Except Halt Unit} {s₁ : RecordedWindow W α β Raw Frame}
        (hlead : exec (op.lead d.recorded) s = (r, s₁)) :=
      ((Operation.makes_lead (d := d) hblind (fun _ _ => rfl) op).of_exec hlead).2
    cases Operation.pumping hpumps h with
    | refused hlead =>
      obtain ⟨calls, hcalls, hkinds⟩ := hfirst hlead
      exact ⟨calls, hcalls, hmono (by decide) hkinds⟩
    | broken hlead hpump =>
      obtain ⟨before, hbefore, hkinds⟩ := hfirst hlead
      obtain ⟨-, calls, hcalls, hkinds'⟩ := pump_makes hdeaf (hs.lead hlead) hpump
      exact ⟨_, hbefore.append hcalls,
        (hmono (by decide) hkinds).append (hmono (by decide) hkinds')⟩
    | finished hlead hpump htail =>
      obtain ⟨before, hbefore, hkinds⟩ := hfirst hlead
      obtain ⟨-, calls, hcalls, hkinds'⟩ := pump_makes hdeaf (hs.lead hlead) hpump
      obtain ⟨after, hafter, hkinds''⟩ := exec_tail_pumps hpumps htail
      exact ⟨_, (hbefore.append hcalls).append hafter, ((hmono (by decide) hkinds).append
        (hmono (by decide) hkinds')).append (hmono (by decide) hkinds'')⟩

end Window

namespace Native

open Gui (Painted Toolkit)
open Window (Reached exec openWith)

/-! ## What is said about closing -/

/-- A pump of the event loop: the batch that it took, and what it returned. -/
structure Pumped where
  batch : Batch
  reports : List (Report Float DisplayEvent)

namespace Pumped

def asksToClose (p : Pumped) : Bool := p.batch.arrivals.any Arrival.asksToClose || p.batch.exits

/-- A pump returns all events of this window and no others, in their order, each with its raw form
and with what it means to a window, if that is anything. -/
def Whole (p : Pumped) : Prop :=
  p.reports = (p.batch.arrivals.filterMap Arrival.event?).map fun e => ⟨e.occurrence?, some e⟩

end Pumped

/-- The pumps among some calls, where each takes the next of those batches. -/
def pumpsOf {Frame : Type} : List Batch → List (Call Float DisplayEvent Frame) → List Pumped
  | _, [] => []
  | batches, .poll reports :: calls | batches, .wait reports :: calls =>
    ⟨batches.headD {}, reports⟩ :: pumpsOf batches.tail calls
  | batches, _ :: calls => pumpsOf batches calls

/-- What may decide whether a window should close. -/
inductive Say where
  | pumped (p : Pumped)
  /-- The host program asks for it, or takes that back. -/
  | asked (stop : Bool)

/-- What a saying writes, if it decides anything. -/
def Say.write? : Say → Option Bool
  | .pumped p => if p.asksToClose then some true else none
  | .asked stop => some stop

/-- The last write. -/
def lastWrite (sayings : List Say) : Option Bool := (sayings.filterMap Say.write?).getLast?

theorem lastWrite_append (sayings sayings' : List Say) :
    lastWrite (sayings ++ sayings') = (lastWrite sayings').or (lastWrite sayings) := by
  simp only [lastWrite, List.filterMap_append, List.getLast?_append]

theorem lastWrite_pumped (ps : List Pumped) :
    lastWrite (ps.map .pumped) = if ps.any Pumped.asksToClose then some true else none := by
  induction ps with
  | nil => rfl
  | cons p ps ih =>
    rw [List.map_cons, ← List.singleton_append, lastWrite_append, ih, List.any_cons]
    by_cases hrest : ps.any Pumped.asksToClose = true
    · simp [hrest]
    · by_cases hp : p.asksToClose = true
      · simp [hrest, hp, lastWrite, Say.write?]
      · simp [hrest, hp, lastWrite, Say.write?]

section Desktop

variable {T In P N C : Type} [DecidableEq N] (k : Toolkit T In P N C) {w w' : Desktop T P N C}
  {call : Call Float DisplayEvent (Painted P N C)}

/-- A pump takes the next batch and raises the mark if it asks for that; no other call does
anything about closing. -/
theorem does_pumps (h : (Desktop.devices k).Does w call w') (hkind : call.kind ≠ .closing)
    (calls : List (Call Float DisplayEvent (Painted P N C))) :
    (pumpsOf w.display.batches (call :: calls) = pumpsOf w'.display.batches calls ∧
        w'.display.closeRequested = w.display.closeRequested) ∨
      ∃ p, pumpsOf w.display.batches (call :: calls) = p :: pumpsOf w'.display.batches calls ∧
        w'.display.closeRequested = (w.display.closeRequested || p.asksToClose) ∧ p.Whole := by
  cases h with
  | poll | wait => exact .inr ⟨_, rfl, Bool.or_assoc _ _ _, rfl⟩
  | setCloseRequested => exact absurd rfl hkind
  | endFrame =>
    let p := w.gui.endFrame k w.display.framebuffer
    obtain ⟨visible, icon, log, hobeyed⟩ := obeyed_eq { w with gui := p.2 } p.1.2
    have hdisplay : ((Desktop.devices k).gui.endFrame w).2.display =
        { w.display with cursorVisible := visible, cursorIcon := icon } :=
      congrArg Desktop.display hobeyed
    rw [hdisplay]
    exact .inl ⟨rfl, rfl⟩
  | writeImage path =>
    have hdisplay : ((Desktop.devices k).renderer.writeImage path w).2.display = w.display := by
      show ((Desktop.renderer.writeImage path w).2).display = w.display
      rcases hwrite : w.surface.writeImage path w.disk with e | disk <;>
        simp only [Desktop.renderer, hwrite]
    rw [hdisplay]
    exact .inl ⟨rfl, rfl⟩
  | _ => exact .inl ⟨rfl, rfl⟩

/-- Over some calls the mark is raised if one of their pumps asks for that. -/
theorem trace_pumps {calls : List (Call Float DisplayEvent (Painted P N C))}
    (h : (Desktop.devices k).Trace w calls w') (hkinds : ∀ call ∈ calls, call.kind ≠ .closing) :
    w'.display.closeRequested =
        (w.display.closeRequested || (pumpsOf w.display.batches calls).any Pumped.asksToClose) ∧
      ∀ p ∈ pumpsOf w.display.batches calls, p.Whole := by
  induction h with
  | nil => exact ⟨(Bool.or_false _).symm, fun _ hp => absurd hp List.not_mem_nil⟩
  | @cons w w' w'' call calls hcall _ ih =>
    obtain ⟨hmark, hwhole⟩ := ih fun call hcall => hkinds call (.tail _ hcall)
    rcases does_pumps k hcall (hkinds call (.head _)) calls with
      ⟨hpumps, hsame⟩ | ⟨p, hpumps, hraised, hp⟩
    · rw [hpumps, hmark, hsame]
      exact ⟨rfl, hwhole⟩
    · rw [hpumps, hmark, hraised, List.any_cons, Bool.or_assoc]
      exact ⟨rfl, List.forall_mem_cons.2 ⟨hp, hwhole⟩⟩

/-- Calls that are not for closing bring the mark to the last write of their pumps. -/
theorem mark_of_adds {r r' : Recorded (Desktop T P N C) Float DisplayEvent (Painted P N C)}
    {calls : List (Call Float DisplayEvent (Painted P N C))}
    (h : Recorded.Adds (Desktop.devices k) r calls r')
    (hkinds : OfKinds Call.Kind.unclosing calls) :
    r'.world.display.closeRequested =
        (lastWrite ((pumpsOf r.world.display.batches calls).map .pumped)).getD
          r.world.display.closeRequested ∧
      ∀ p ∈ pumpsOf r.world.display.batches calls, p.Whole := by
  obtain ⟨hraised, hwhole⟩ := trace_pumps k h.trace fun call hcall hkind =>
    absurd (hkind ▸ hkinds call hcall) (by decide)
  rw [lastWrite_pumped, hraised]
  refine ⟨?_, hwhole⟩
  split <;> simp [*]

variable {s s' : RecordedWindow (Desktop T P N C) Float Float32 DisplayEvent (Painted P N C)}
  {op : Operation (Recorded (Desktop T P N C) Float DisplayEvent (Painted P N C))}

/-- The pumps of an operation. -/
def pumpsBetween (s s' : RecordedWindow (Desktop T P N C) Float Float32 DisplayEvent
    (Painted P N C)) : List Pumped :=
  pumpsOf s.world.world.display.batches (s'.world.calls.drop s.world.calls.length)

/-- What an operation says about closing. -/
def saidBy (op : Operation (Recorded (Desktop T P N C) Float DisplayEvent (Painted P N C)))
    (s s' : RecordedWindow (Desktop T P N C) Float Float32 DisplayEvent (Painted P N C)) :
    List Say :=
  (pumpsBetween s s').map .pumped ++ (op.asked?.map .asked).toList

/-- A window that was opened on a native display and used, with all that was said about closing it.
The world may do anything meanwhile, but for the record and the mark. -/
inductive Attended (config : Config) : List Say →
    RecordedWindow (Desktop T P N C) Float Float32 DisplayEvent (Painted P N C) → Prop where
  | opened {display : Display} {entry world}
      {s : RecordedWindow (Desktop T P N C) Float Float32 DisplayEvent (Painted P N C)} :
      display.openWindow config = (.ok entry, world.display) →
      openWith (Desktop.devices k).recorded config ⟨world, []⟩ = (.ok (), s) →
      Attended config ((pumpsOf world.display.batches s.world.calls).map .pumped) s
  | next {sayings}
      {s s' : RecordedWindow (Desktop T P N C) Float Float32 DisplayEvent (Painted P N C)}
      (op : Operation (Recorded (Desktop T P N C) Float DisplayEvent (Painted P N C)))
      (a : Except WindowError (Answer Float Float32)) : Attended config sayings s →
      op.Spares Recorded.calls → op.Spares (·.world.display.closeRequested) →
      exec (op.perform (Desktop.devices k).recorded) s = (Except.mapError .failed a, s') →
      Attended config (sayings ++ saidBy op s s') s'

variable {config : Config} {sayings : List Say}

variable {k} in
theorem Attended.reached (h : Attended k config sayings s) :
    ∃ world, Reached (Desktop.devices k).recorded config world s := by
  induction h with
  | opened _ hopen => exact ⟨_, .opened hopen⟩
  | next op a _ _ _ hexec ih =>
    obtain ⟨world, hreached⟩ := ih
    exact ⟨world, .next op a hreached hexec⟩

omit [DecidableEq N] in
/-- Nobody has asked to close a new window. -/
theorem closeRequested_opened {display display' : Display} {entry : Entry}
    (h : display.openWindow config = (.ok entry, display')) : display'.closeRequested = false := by
  unfold Display.openWindow at h
  dsimp only at h
  repeat' split at h
  all_goals cases h
  rfl

/-- An operation brings the mark to its last write, and its pumps are whole. -/
theorem exec_perform_says (hs : s.Wired) (hvisible : s.config.showWindow = true)
    (hcalls : op.Spares Recorded.calls) (hmark : op.Spares (·.world.display.closeRequested))
    {res : Except Halt (Answer Float Float32)}
    (h : exec (op.perform (Desktop.devices k).recorded) s = (res, s')) :
    s'.world.world.display.closeRequested =
        (lastWrite (saidBy op s s')).getD s.world.world.display.closeRequested ∧
      ∀ p ∈ pumpsBetween s s', p.Whole := by
  by_cases hquiet : op.isOutside = false ∧ op.closing = []
  · obtain ⟨hout, hclosing⟩ := hquiet
    obtain ⟨calls, hadds, hkinds⟩ := Window.exec_perform_makes hs hout h
    have hnone : op.asked? = none := by
      cases op with
      | requestStop => cases hclosing
      | _ => rfl
    have hps : pumpsBetween s s' = pumpsOf s.world.world.display.batches calls := by
      rw [pumpsBetween, hadds.record, List.drop_left]
    rw [hclosing, List.append_nil] at hkinds
    rw [saidBy, hps, hnone, Option.map_none, Option.toList_none, List.append_nil]
    exact mark_of_adds k hadds hkinds
  · cases op with
    | outside g =>
      cases h
      have hps : pumpsBetween s { s with world := g s.world } = [] := by
        rw [pumpsBetween, hcalls s.world, List.drop_length]
        rfl
      show _ = (lastWrite (saidBy (.outside g) s { s with world := g s.world })).getD _ ∧ _
      rw [saidBy, hps]
      exact ⟨hmark s.world, fun _ hp => absurd hp List.not_mem_nil⟩
    | requestStop stop =>
      rw [Window.exec_requestStop_eq, if_pos hvisible] at h
      cases h
      have hps : pumpsBetween s (s.inWorld ((Desktop.devices k).recorded.platform.setCloseRequested
          stop s.world)) = [] := by
        show pumpsOf _ (List.drop _ (s.world.calls ++ [Call.setCloseRequested stop])) = []
        rw [List.drop_left]
        rfl
      rw [saidBy, hps]
      exact ⟨rfl, fun _ hp => absurd hp List.not_mem_nil⟩
    | _ => exact absurd ⟨rfl, rfl⟩ hquiet

variable {k} in
theorem Attended.visible (h : Attended k config sayings s) (hvisible : config.showWindow = true) :
    s.config.showWindow = true := by
  obtain ⟨world, hreached⟩ := h.reached
  obtain ⟨turns, hcourse⟩ := hreached.course
  rw [hcourse.config_eq]
  exact hvisible

variable {k} in
/-- The mark is the last write, and all pumps return all that they got for this window. -/
theorem Attended.mark_eq (h : Attended k config sayings s) (hvisible : config.showWindow = true) :
    s.world.world.display.closeRequested = (lastWrite sayings).getD false ∧
      ∀ p, .pumped p ∈ sayings → p.Whole := by
  have pumped_mem {ps : List Pumped} {p : Pumped} (hp : Say.pumped p ∈ ps.map .pumped) :
      p ∈ ps := by
    obtain ⟨p', hp', heq⟩ := List.mem_map.1 hp
    cases heq
    exact hp'
  induction h with
  | @opened display entry world s hdisplay hopen =>
    obtain ⟨calls, hadds, hkinds⟩ := Window.openWith_makes hopen
    obtain ⟨hmark, hwhole⟩ := mark_of_adds k hadds (hkinds.mono (by decide))
    rw [hadds.record, List.nil_append, hmark, closeRequested_opened hdisplay]
    exact ⟨rfl, fun p hp => hwhole p (pumped_mem hp)⟩
  | @next sayings s s' op a h hcalls hmark hexec ih =>
    obtain ⟨hbefore, hwhole⟩ := ih
    obtain ⟨world, hreached⟩ := h.reached
    obtain ⟨hlast, hwhole'⟩ :=
      exec_perform_says k hreached.wired (h.visible hvisible) hcalls hmark hexec
    rw [lastWrite_append, hlast, hbefore]
    refine ⟨?_, fun p hp => ?_⟩
    · cases lastWrite (saidBy op s s') <;> rfl
    · rcases List.mem_append.1 hp with hp | hp
      · exact hwhole p hp
      · rcases List.mem_append.1 hp with hp | hp
        · exact hwhole' p (pumped_mem hp)
        · cases op <;> simp [Operation.asked?] at hp

/-- While a visible window is used, it is not running exactly if the last write about closing says
so: a pump writes that the window should close if this window was asked to or the event loop has
ended, and writes nothing otherwise, and a request of the host program writes what it asks for. Each
pump returns the events of this window, all of them in their order, each once with its raw form,
whether a window reacts to it or not. -/
theorem last_write_wins (h : Attended k config sayings s) (hvisible : config.showWindow = true) :
    (s.isRunning (Desktop.devices k).recorded = false ↔ lastWrite sayings = some true) ∧
      ∀ p, .pumped p ∈ sayings →
        p.reports =
          (p.batch.arrivals.filterMap Arrival.event?).map fun e => ⟨e.occurrence?, some e⟩ := by
  obtain ⟨hmark, hwhole⟩ := h.mark_eq hvisible
  refine ⟨?_, hwhole⟩
  show (!s.config.showWindow || !s.world.world.display.closeRequested) = false ↔ _
  rw [h.visible hvisible, hmark]
  rcases lastWrite sayings with _ | _ | _ <;> decide

end Desktop

/-- While a change of size waits, the window is asked to close. In the end the event loop ends. -/
def closingBatches : List Batch :=
  [⟨[.own (.resized ⟨0, 0⟩), .foreign .closeRequested], false⟩,
    ⟨[.own .closeRequested, .own (.resized ⟨2, 2⟩)], false⟩, ⟨[.foreign .closeRequested], false⟩,
    ⟨[], true⟩]

def closingDesktop : Desktop Unit Unit Unit Unit where
  display := (Display.openWindow { size := ⟨1, 1⟩ } { batches := closingBatches }).2
  surface := (Surface.built {} ⟨1, 1⟩ true).prepare
  gui := { toolkit := () }

/-- What the host program does to its window there. -/
abbrev ClosingStep : Type :=
  Operation (Recorded (Desktop Unit Unit Unit Unit) Float DisplayEvent (Painted Unit Unit Unit))

/-- The window there after those steps. -/
def closingWindow (ops : List ClosingStep) :
    RecordedWindow (Desktop Unit Unit Unit Unit) Float Float32 DisplayEvent
      (Painted Unit Unit Unit) :=
  ops.foldl (fun s op => (exec (op.perform (Desktop.devices plainToolkit).recorded) s).2)
    (openWith (Desktop.devices plainToolkit).recorded { size := ⟨1, 1⟩ } ⟨closingDesktop, []⟩).2

/-- Those steps are a run, and this is what was written meanwhile. -/
def ClosingWrote (ops : List ClosingStep) (writes : List Bool) : Prop :=
  ∃ sayings, Attended plainToolkit { size := ⟨1, 1⟩ } sayings (closingWindow ops) ∧
    sayings.filterMap Say.write? = writes

theorem closingWrote_nil : ClosingWrote [] [] := by
  have hdisplay : Display.openWindow { size := ⟨1, 1⟩ } { batches := closingBatches } =
    (.ok _, closingDesktop.display) := rfl
  have hopen : openWith (Desktop.devices plainToolkit).recorded { size := ⟨1, 1⟩ }
    ⟨closingDesktop, []⟩ = (.ok (), closingWindow []) := rfl
  exact ⟨_, .opened hdisplay hopen, by decide +kernel⟩

theorem ClosingWrote.next {ops : List ClosingStep} {writes writes' : List Bool}
    (h : ClosingWrote ops writes) (op : ClosingStep) (hout : op.isOutside = false)
    (hok : (exec (op.perform (Desktop.devices plainToolkit).recorded) (closingWindow ops)).1.isOk =
      true)
    (hwrites : (saidBy op (closingWindow ops) (closingWindow (ops ++ [op]))).filterMap Say.write? =
      writes') :
    ClosingWrote (ops ++ [op]) (writes ++ writes') := by
  obtain ⟨sayings, hattended, rfl⟩ := h
  have hspares {γ : Type} (view : Recorded (Desktop Unit Unit Unit Unit) Float DisplayEvent
      (Painted Unit Unit Unit) → γ) : op.Spares view := by
    cases op with
    | outside => cases hout
    | _ => trivial
  obtain ⟨a, hexec⟩ := Window.exists_eq_ok hok
  have hstep : closingWindow (ops ++ [op]) =
      (exec (op.perform (Desktop.devices plainToolkit).recorded) (closingWindow ops)).2 := by
    rw [closingWindow, List.foldl_append]
    rfl
  have hnext := hattended.next op (.ok a) (hspares _) (hspares _) hexec
  rw [← hstep] at hnext
  refine ⟨_, hnext, ?_⟩
  rw [List.filterMap_append, hwrites]

/-- A request to close that comes during a wait counts until the host program takes it back. Then
nothing counts but the end of the event loop. -/
theorem last_write_wins_in_turn :
    (ClosingWrote [.pollEvents .any] [true] ∧
      (closingWindow [.pollEvents .any]).isRunning (Desktop.devices plainToolkit).recorded =
        false) ∧
    (ClosingWrote [.pollEvents .any, .requestStop false, .pollEvents .any] [true, false] ∧
      (closingWindow [.pollEvents .any, .requestStop false, .pollEvents .any]).isRunning
        (Desktop.devices plainToolkit).recorded = true) ∧
    ClosingWrote [.pollEvents .any, .requestStop false, .pollEvents .any, .pollEvents .any]
        [true, false, true] ∧
      (closingWindow [.pollEvents .any, .requestStop false, .pollEvents .any,
        .pollEvents .any]).isRunning (Desktop.devices plainToolkit).recorded = false := by
  have h₁ : ClosingWrote [.pollEvents .any] [true] :=
    closingWrote_nil.next (.pollEvents .any) rfl (by decide +kernel) (by decide +kernel)
  have h₂ : ClosingWrote [.pollEvents .any, .requestStop false] [true, false] :=
    h₁.next (.requestStop false) rfl (by decide +kernel) (by decide +kernel)
  have h₃ : ClosingWrote [.pollEvents .any, .requestStop false, .pollEvents .any] [true, false] :=
    h₂.next (.pollEvents .any) rfl (by decide +kernel) (by decide +kernel)
  have h₄ : ClosingWrote [.pollEvents .any, .requestStop false, .pollEvents .any, .pollEvents .any]
      [true, false, true] :=
    h₃.next (.pollEvents .any) rfl (by decide +kernel) (by decide +kernel)
  refine ⟨⟨h₁, ?_⟩, ⟨h₃, ?_⟩, h₄, ?_⟩
  · obtain ⟨sayings, hattended, hwrites⟩ := h₁
    exact (last_write_wins plainToolkit hattended rfl).1.2 (by rw [lastWrite, hwrites]; rfl)
  · obtain ⟨sayings, hattended, hwrites⟩ := h₃
    have hlast : lastWrite sayings ≠ some true := by
      rw [lastWrite, hwrites]
      decide
    exact Bool.ne_false_iff.1 (mt (last_write_wins plainToolkit hattended rfl).1.1 hlast)
  · obtain ⟨sayings, hattended, hwrites⟩ := h₄
    exact (last_write_wins plainToolkit hattended rfl).1.2 (by rw [lastWrite, hwrites]; rfl)

end Native

end WindowHost
