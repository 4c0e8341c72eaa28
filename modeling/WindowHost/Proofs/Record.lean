import WindowHost.Devices.Recorded
import WindowHost.Proofs.Course

/-!
# The record of a window

A window over recorded devices keeps the calls to them in their order. `Devices.Does` tells what a
single call does to the world, and a `Devices.Trace` is a list of calls that lead from one world to
another. `Makes kinds f m` says that whatever becomes of `m`, it makes calls of those kinds only,
and the window looks the same under `f` as before. The calls of a pump are known one by one:
`Delivery.calls` are those for a report that is handed over.
-/

namespace WindowHost

variable {W α β Raw Frame : Type}

/-! ## Calls -/

/-- A split of a list at an element, where the list grows by one. -/
theorem exists_split_concat {γ : Type} {x y : γ} {l : List γ} {Q : List γ → List γ → Prop} :
    (∃ before after, l ++ [y] = before ++ x :: after ∧ Q before after) ↔
      (y = x ∧ Q l []) ∨ ∃ before after, l = before ++ x :: after ∧ Q before (after ++ [y]) := by
  constructor
  · rintro ⟨before, after, h, hq⟩
    rcases List.eq_nil_or_concat after with rfl | ⟨after, last, rfl⟩
    · obtain ⟨rfl, hlast⟩ := List.append_inj' h rfl
      exact .inl ⟨List.head_eq_of_cons_eq hlast, hq⟩
    · rw [List.concat_eq_append] at h hq
      rw [← List.cons_append, ← List.append_assoc] at h
      obtain ⟨rfl, hlast⟩ := List.append_inj' h rfl
      obtain rfl := List.head_eq_of_cons_eq hlast
      exact .inr ⟨before, after, rfl, hq⟩
  · rintro (⟨rfl, hq⟩ | ⟨before, after, rfl, hq⟩)
    · exact ⟨l, [], rfl, hq⟩
    · exact ⟨before, after ++ [y], by simp, hq⟩

/-- What a call is for. -/
inductive Call.Kind where
  | pumping | resizing | drawing | presenting | reading | preparing | pacing | titling | closing
  | suppressing | steering | reclaiming
  deriving DecidableEq, Repr

def Call.kind : Call α Raw Frame → Call.Kind
  | .poll _ | .wait _ | .framebufferSize _ | .rawEvent _ => .pumping
  | .resize .. => .resizing
  | .endFrame _ | .draw .. => .drawing
  | .present _ => .presenting
  | .dump _ | .writeImage .. | .copyDepth .. => .reading
  | .prepareRenderer | .prepareGui => .preparing
  | .sleepUntil _ => .pacing
  | .setTitle _ => .titling
  | .setCloseRequested _ => .closing
  | .suppressCursor _ => .suppressing
  | .setCursorVisible _ | .setCursorShape .. => .steering
  | .reclaimCursor => .reclaiming

/-- All calls are of one of those kinds. -/
def OfKinds (kinds : List Call.Kind) (calls : List (Call α Raw Frame)) : Prop :=
  ∀ call ∈ calls, call.kind ∈ kinds

section OfKinds

variable {kinds kinds' : List Call.Kind} {calls calls' : List (Call α Raw Frame)}

theorem ofKinds_nil : OfKinds kinds ([] : List (Call α Raw Frame)) :=
  fun _ h => absurd h List.not_mem_nil

theorem ofKinds_singleton {call : Call α Raw Frame} (h : call.kind ∈ kinds) :
    OfKinds kinds [call] := by
  intro c hc
  obtain rfl := List.mem_singleton.1 hc
  exact h

theorem OfKinds.cons {call : Call α Raw Frame} (h : call.kind ∈ kinds) (h' : OfKinds kinds calls) :
    OfKinds kinds (call :: calls) :=
  List.forall_mem_cons.2 ⟨h, h'⟩

theorem OfKinds.append (h : OfKinds kinds calls) (h' : OfKinds kinds calls') :
    OfKinds kinds (calls ++ calls') := by
  intro call hcall
  rcases List.mem_append.1 hcall with hcall | hcall
  · exact h call hcall
  · exact h' call hcall

theorem OfKinds.mono (h : OfKinds kinds calls) (hsub : kinds ⊆ kinds') : OfKinds kinds' calls :=
  fun call hcall => hsub (h call hcall)

/-- No call is of another kind. -/
theorem OfKinds.countP_kind (h : OfKinds kinds calls) {kind : Call.Kind} (hk : kind ∉ kinds) :
    calls.countP (fun call => call.kind == kind) = 0 := by
  refine List.countP_eq_zero.2 fun call hcall hkind => hk ?_
  rw [← eq_of_beq hkind]
  exact h call hcall

end OfKinds

/-- What a call to a device does to the world. -/
inductive Devices.Does (d : Devices W α Raw Frame) : W → Call α Raw Frame → W → Prop where
  | poll (w) : Does d w (.poll (d.platform.poll w).1) (d.platform.poll w).2
  | wait (w) : Does d w (.wait (d.platform.wait w).1) (d.platform.wait w).2
  | framebufferSize (w) :
      Does d w (.framebufferSize (d.platform.framebufferSize w).1) (d.platform.framebufferSize w).2
  | setCloseRequested (v w) : Does d w (.setCloseRequested v) (d.platform.setCloseRequested v w)
  | setTitle (title w) : Does d w (.setTitle title) (d.platform.setTitle title w)
  | setCursorVisible (v w) : Does d w (.setCursorVisible v) (d.platform.cursor.setVisible v w)
  | setCursorShape (shape w) :
      Does d w (.setCursorShape shape (d.platform.cursor.setShape shape w).1)
        (d.platform.cursor.setShape shape w).2
  | draw (frame w) : Does d w (.draw frame (d.renderer.draw frame w).1) (d.renderer.draw frame w).2
  | present (w) : Does d w (.present (d.renderer.present w).1) (d.renderer.present w).2
  | resize (size w) :
      Does d w (.resize size (d.renderer.resize size w).1) (d.renderer.resize size w).2
  | dump (w) : Does d w (.dump (d.renderer.dump w).1) (d.renderer.dump w).2
  | writeImage (path w) :
      Does d w (.writeImage path (d.renderer.writeImage path w).1) (d.renderer.writeImage path w).2
  | copyDepth (target w) :
      Does d w (.copyDepth target (d.renderer.copyDepth target w).1)
        (d.renderer.copyDepth target w).2
  | prepareRenderer (w) : Does d w .prepareRenderer (d.renderer.prepare w)
  | rawEvent (raw w) : Does d w (.rawEvent raw) (d.gui.onRawEvent raw w)
  | endFrame (w) : Does d w (.endFrame (d.gui.endFrame w).1) (d.gui.endFrame w).2
  | suppressCursor (v w) : Does d w (.suppressCursor v) (d.gui.suppressCursor v w)
  | reclaimCursor (w) : Does d w .reclaimCursor (d.gui.reclaimCursor w)
  | prepareGui (w) : Does d w .prepareGui (d.gui.prepare w)
  | sleepUntil (deadline w) : Does d w (.sleepUntil deadline) (d.clock.sleepUntil deadline w)

/-- Calls that lead from one world to another. -/
inductive Devices.Trace (d : Devices W α Raw Frame) : W → List (Call α Raw Frame) → W → Prop where
  | nil {w} : Trace d w [] w
  | cons {w w' w'' call calls} : d.Does w call w' → Trace d w' calls w'' →
      Trace d w (call :: calls) w''

section Trace

variable {d : Devices W α Raw Frame} {w w' w'' : W} {calls calls' : List (Call α Raw Frame)}

theorem Devices.Trace.append (h : d.Trace w calls w') (h' : d.Trace w' calls' w'') :
    d.Trace w (calls ++ calls') w'' := by
  induction h with
  | nil => exact h'
  | cons hcall _ ih => exact .cons hcall (ih h')

theorem Devices.Trace.single {call : Call α Raw Frame} (h : d.Does w call w') :
    d.Trace w [call] w' :=
  .cons h .nil

end Trace

/-- Between two recorded worlds the calls join the record, and they are what has happened. -/
structure Recorded.Adds (d : Devices W α Raw Frame) (w : Recorded W α Raw Frame)
    (calls : List (Call α Raw Frame)) (w' : Recorded W α Raw Frame) : Prop where
  record : w'.calls = w.calls ++ calls
  trace : d.Trace w.world calls w'.world

namespace Recorded

variable {d : Devices W α Raw Frame} {w w' w'' : Recorded W α Raw Frame}
  {calls calls' : List (Call α Raw Frame)}

theorem adds_nil : Adds d w [] w := ⟨(List.append_nil _).symm, .nil⟩

theorem Adds.append (h : Adds d w calls w') (h' : Adds d w' calls' w'') :
    Adds d w (calls ++ calls') w'' := by
  refine ⟨?_, h.trace.append h'.trace⟩
  rw [h'.record, h.record, List.append_assoc]

theorem adds_singleton {call : Call α Raw Frame} (hdoes : d.Does w.world call w'.world)
    (hcalls : w'.calls = w.calls ++ [call]) : Adds d w [call] w' :=
  ⟨hcalls, .single hdoes⟩

end Recorded

/-- A window over recorded devices. -/
abbrev RecordedWindow (W α β Raw Frame : Type) := Window (Recorded W α Raw Frame) α β

namespace Window

open Recorded (Adds adds_nil adds_singleton)

variable {r t γ : Type} {d : Devices W α Raw Frame} {kinds kinds' : List Call.Kind}
  {s s' : RecordedWindow W α β Raw Frame} {calls calls' : List (Call α Raw Frame)}

/-! ## What operations call -/

/-- Whatever becomes of `m`, it makes only calls of those kinds, and the window looks the same
under `f` as before. -/
def Makes (d : Devices W α Raw Frame) (kinds : List Call.Kind)
    (f : RecordedWindow W α β Raw Frame → γ) (m : WindowM (Recorded W α Raw Frame) α β r) :
    Prop :=
  ∀ s, f (exec m s).2 = f s ∧ ∃ calls, Adds d s.world calls (exec m s).2.world ∧ OfKinds kinds calls

/-- A view that shows nothing of the devices. -/
def Blind (f : Window W α β → γ) : Prop := ∀ s w, f (s.inWorld w) = f s

/-- A step of a recorded device: one call, of one of those kinds. -/
def Notes (d : Devices W α Raw Frame) (kinds : List Call.Kind)
    (g : Recorded W α Raw Frame → Recorded W α Raw Frame) : Prop :=
  ∀ w, ∃ call, d.Does w.world call (g w).world ∧ (g w).calls = w.calls ++ [call] ∧
    call.kind ∈ kinds

section Rules

variable {f : RecordedWindow W α β Raw Frame → γ} {m m' : WindowM (Recorded W α Raw Frame) α β r}

theorem Makes.of_exec (h : Makes d kinds f m) {res : Except Halt r} (hexec : exec m s = (res, s')) :
    f s' = f s ∧ ∃ calls, Adds d s.world calls s'.world ∧ OfKinds kinds calls := by
  have hm := h s
  rwa [hexec] at hm

theorem Makes.mono (h : Makes d kinds f m) (hsub : kinds ⊆ kinds') : Makes d kinds' f m := by
  intro s
  obtain ⟨hf, calls, hadds, hkinds⟩ := h s
  exact ⟨hf, calls, hadds, hkinds.mono hsub⟩

theorem makes_of_world (hf : ∀ s, f (exec m s).2 = f s) (hw : ∀ s, (exec m s).2.world = s.world) :
    Makes d kinds f m :=
  fun s => ⟨hf s, [], hw s ▸ adds_nil, ofKinds_nil⟩

theorem makes_pure (x : r) : Makes d kinds f (pure x) :=
  makes_of_world (fun _ => rfl) fun _ => rfl

theorem makes_fail (e : WindowError) :
    Makes d kinds f (fail e : WindowM (Recorded W α Raw Frame) α β r) :=
  makes_of_world (fun _ => rfl) fun _ => rfl

theorem makes_get : Makes d kinds f (get : WindowM (Recorded W α Raw Frame) α β _) :=
  makes_of_world (fun _ => rfl) fun _ => rfl

theorem makes_modify {g : RecordedWindow W α β Raw Frame → RecordedWindow W α β Raw Frame}
    (hf : ∀ s, f (g s) = f s) (hw : ∀ s, (g s).world = s.world) :
    Makes d kinds f (modify g : WindowM (Recorded W α Raw Frame) α β PUnit) :=
  makes_of_world hf hw

theorem makes_modifyGet
    {g : RecordedWindow W α β Raw Frame → r × RecordedWindow W α β Raw Frame}
    (hf : ∀ s, f (g s).2 = f s) (hw : ∀ s, (g s).2.world = s.world) :
    Makes d kinds f (modifyGet g : WindowM (Recorded W α Raw Frame) α β r) :=
  makes_of_world hf hw

theorem makes_requireVisible (operation : SurfaceOperation) :
    Makes d kinds f (requireVisible operation) := by
  refine makes_of_world (fun s => ?_) fun s => ?_
  all_goals
    rw [exec_requireVisible]
    split <;> rfl

theorem Makes.bind (hm : Makes d kinds f m) {n : r → WindowM (Recorded W α Raw Frame) α β t}
    (hn : ∀ x, Makes d kinds f (n x)) : Makes d kinds f (m >>= n) := by
  intro s
  obtain ⟨hf, calls, hadds, hkinds⟩ := hm s
  rw [exec_bind]
  rcases hexec : exec m s with ⟨e | x, s₁⟩
  · rw [hexec] at hf hadds
    exact ⟨hf, calls, hadds, hkinds⟩
  · rw [hexec] at hf hadds
    obtain ⟨hf', calls', hadds', hkinds'⟩ := hn x s₁
    exact ⟨hf'.trans hf, _, hadds.append hadds', hkinds.append hkinds'⟩

theorem Makes.map (hm : Makes d kinds f m) (g : r → t) : Makes d kinds f (g <$> m) := by
  intro s
  rw [exec_map]
  exact hm s

theorem Makes.ite {p : Prop} [Decidable p] (hm : Makes d kinds f m) (hm' : Makes d kinds f m') :
    Makes d kinds f (if p then m else m') := by
  split
  · exact hm
  · exact hm'

theorem Notes.adds {g : Recorded W α Raw Frame → Recorded W α Raw Frame} (h : Notes d kinds g)
    (w : Recorded W α Raw Frame) : ∃ calls, Adds d w calls (g w) ∧ OfKinds kinds calls := by
  obtain ⟨call, hdoes, hcalls, hkind⟩ := h w
  exact ⟨[call], adds_singleton hdoes hcalls, ofKinds_singleton hkind⟩

theorem makes_act (hf : Blind f) {g : Recorded W α Raw Frame → Recorded W α Raw Frame}
    (h : Notes d kinds g) : Makes d kinds f (act g) :=
  fun s => ⟨hf s _, h.adds s.world⟩

theorem makes_ask (hf : Blind f) {g : Recorded W α Raw Frame → r × Recorded W α Raw Frame}
    (h : Notes d kinds fun w => (g w).2) : Makes d kinds f (ask g) :=
  fun s => ⟨hf s _, h.adds s.world⟩

theorem makes_attempt (hf : Blind f)
    {g : Recorded W α Raw Frame → Except BackendError r × Recorded W α Raw Frame}
    (h : Notes d kinds fun w => (g w).2) : Makes d kinds f (attempt g) := by
  intro s
  rw [exec_attempt]
  exact ⟨hf s _, h.adds s.world⟩

end Rules

/-! ## The steps of a frame -/

section Notes

theorem notes_endFrame : Notes d [.drawing] fun w => (d.recorded.gui.endFrame w).2 :=
  fun w => ⟨_, .endFrame w.world, rfl, .head _⟩

theorem notes_draw (frame : Frame) :
    Notes d [.drawing] fun w => (d.recorded.renderer.draw frame w).2 :=
  fun w => ⟨_, .draw frame w.world, rfl, .head _⟩

theorem notes_present : Notes d [.presenting] fun w => (d.recorded.renderer.present w).2 :=
  fun w => ⟨_, .present w.world, rfl, .head _⟩

theorem notes_dump : Notes d [.reading] fun w => (d.recorded.renderer.dump w).2 :=
  fun w => ⟨_, .dump w.world, rfl, .head _⟩

theorem notes_writeImage (path : String) :
    Notes d [.reading] fun w => (d.recorded.renderer.writeImage path w).2 :=
  fun w => ⟨_, .writeImage path w.world, rfl, .head _⟩

theorem notes_copyDepth (target : Array Float32) :
    Notes d [.reading] fun w => (d.recorded.renderer.copyDepth target w).2 :=
  fun w => ⟨_, .copyDepth target w.world, rfl, .head _⟩

theorem notes_prepareRenderer : Notes d [.preparing] d.recorded.renderer.prepare :=
  fun w => ⟨_, .prepareRenderer w.world, rfl, .head _⟩

theorem notes_prepareGui : Notes d [.preparing] d.recorded.gui.prepare :=
  fun w => ⟨_, .prepareGui w.world, rfl, .head _⟩

theorem notes_setTitle (title : String) : Notes d [.titling] (d.recorded.platform.setTitle title) :=
  fun w => ⟨_, .setTitle title w.world, rfl, .head _⟩

theorem notes_setCloseRequested (value : Bool) :
    Notes d [.closing] (d.recorded.platform.setCloseRequested value) :=
  fun w => ⟨_, .setCloseRequested value w.world, rfl, .head _⟩

theorem notes_sleepUntil (deadline : Instant) :
    Notes d [.pacing] (d.recorded.clock.sleepUntil deadline) :=
  fun w => ⟨_, .sleepUntil deadline w.world, rfl, .head _⟩

end Notes

section Steps

variable {f : RecordedWindow W α β Raw Frame → γ} (hf : Blind f)

include hf

section Drawing

variable (hd : ∀ s b, f { s with drawn := b } = f s)

include hd

theorem makes_prepareForNextFrame : Makes d [.preparing] f (prepareForNextFrame d.recorded) :=
  (makes_act hf notes_prepareRenderer).bind fun _ =>
    (makes_act hf notes_prepareGui).bind fun _ => makes_modify (fun s => hd s _) fun _ => rfl

theorem makes_drawFrame : Makes d [.drawing] f (drawFrame d.recorded) :=
  (makes_ask hf notes_endFrame).bind fun frame =>
    (makes_attempt hf (notes_draw frame)).bind fun _ =>
      makes_modify (fun s => hd s _) fun _ => rfl

theorem makes_ensureDrawn : Makes d [.drawing] f (ensureDrawn d.recorded) :=
  makes_get.bind fun _ => (makes_pure _).ite (makes_drawFrame hf hd)

theorem makes_finishRead : Makes d [.preparing] f (finishRead d.recorded) :=
  makes_get.bind fun _ => (makes_pure _).ite (makes_prepareForNextFrame hf hd)

end Drawing

theorem makes_pace [Scalar α] (hp : ∀ s p, f { s with pacer := p } = f s) :
    Makes d [.pacing] f (pace d.recorded) := by
  intro s
  have hkeep (pacer : Pacing.Pacer α) (w : Recorded W α Raw Frame) :
      f { s with pacer, world := w } = f s := (hf { s with pacer } w).trans (hp s pacer)
  simp only [pace, exec_modify, Pacing.Pacer.pace]
  split
  · exact ⟨hkeep _ _, (notes_sleepUntil _).adds s.world⟩
  · exact ⟨hkeep _ _, [], adds_nil, ofKinds_nil⟩

theorem makes_countFrame [Scalar α] (hr : ∀ s r, f { s with rate := r } = f s) :
    Makes d [.titling] f (countFrame d.recorded) := by
  intro s
  rw [countFrame, exec_bind_of_ok (exec_get s)]
  rcases (s.rate.tick (d.recorded.clock.now s.world) : Option α × _) with ⟨_ | average, rate⟩
  · exact ⟨hr s rate, [], adds_nil, ofKinds_nil⟩
  · exact ⟨(hf _ _).trans (hr s rate), (notes_setTitle _).adds s.world⟩

end Steps

/-! ## Settling the cursor -/

/-- The calls with which a change of the driver writes the native cursor. -/
def steering (d : Devices W α Raw Frame) (previous next : Cursor.Applied) (w : W) :
    List (Call α Raw Frame) :=
  if previous = next then []
  else
    match next with
    | .userHidden => [.setCursorVisible false]
    | .userShape shape =>
      match d.platform.cursor.setShape shape (d.platform.cursor.setVisible true w) with
      | (true, _) => [.setCursorVisible true, .setCursorShape shape true]
      | (false, w) =>
        [.setCursorVisible true, .setCursorShape shape false,
          .setCursorShape .arrow (d.platform.cursor.setShape .arrow w).1]
    | .guiControlled => if previous = .userHidden then [.setCursorVisible true] else []

theorem ofKinds_steering (previous next : Cursor.Applied) (w : W) :
    OfKinds [.steering] (steering d previous next w) := by
  unfold steering
  repeat' split
  all_goals simp [OfKinds, Call.kind]

theorem adds_apply (previous next : Cursor.Applied) (w : Recorded W α Raw Frame) :
    Adds d w (steering d previous next w.world)
        (d.recorded.platform.cursor.apply previous next w) ∧
      (d.recorded.platform.cursor.apply previous next w).world =
        d.platform.cursor.apply previous next w.world := by
  unfold steering Cursor.Sink.apply
  split
  · exact ⟨adds_nil, rfl⟩
  · cases next with
    | guiControlled =>
      dsimp only
      split
      · exact ⟨adds_singleton (.setCursorVisible true w.world) rfl, rfl⟩
      · exact ⟨adds_nil, rfl⟩
    | userHidden => exact ⟨adds_singleton (.setCursorVisible false w.world) rfl, rfl⟩
    | userShape shape =>
      have hshape := Devices.Does.setCursorShape (d := d) shape
        (d.platform.cursor.setVisible true w.world)
      have hnoted : d.recorded.platform.cursor.setShape shape
          (d.recorded.platform.cursor.setVisible true w) =
          let x := d.platform.cursor.setShape shape (d.platform.cursor.setVisible true w.world)
          (x.1, ⟨x.2, w.calls ++ [.setCursorVisible true] ++ [.setCursorShape shape x.1]⟩) := rfl
      dsimp only
      rw [hnoted]
      rcases hset : d.platform.cursor.setShape shape (d.platform.cursor.setVisible true w.world)
        with ⟨_ | _, w'⟩
      · rw [hset] at hshape
        refine ⟨⟨?_, ?_⟩, rfl⟩
        · simp [Devices.recorded, Recorded.noteAnswer]
        · exact .cons (.setCursorVisible true w.world)
            (.cons hshape (.single (.setCursorShape .arrow w')))
      · rw [hset] at hshape
        refine ⟨⟨?_, ?_⟩, rfl⟩
        · simp
        · exact .cons (.setCursorVisible true w.world) (.single hshape)

/-- The widgets are told when the cursor goes back to them. -/
def handBack (previous next : Cursor.Applied) : List (Call α Raw Frame) :=
  if next = .guiControlled ∧ previous ≠ .guiControlled then [.reclaimCursor] else []

theorem ofKinds_handBack (previous next : Cursor.Applied) :
    OfKinds [.reclaiming] (handBack previous next : List (Call α Raw Frame)) := by
  unfold handBack
  split
  · exact ofKinds_singleton (.head _)
  · exact ofKinds_nil

theorem ofKinds_settling (previous next : Cursor.Applied) (w : W) :
    OfKinds [.steering, .reclaiming] (steering d previous next w ++ handBack previous next) :=
  ((ofKinds_steering previous next w).mono (by decide)).append
    ((ofKinds_handBack previous next).mono (by decide))

/-- The calls with which the next frame begins and the cursor is settled in it. -/
theorem ofKinds_turning (suppressed : Bool) (previous next : Cursor.Applied) (w : W) :
    OfKinds [.suppressing, .preparing, .steering, .reclaiming]
      ([.suppressCursor suppressed, .prepareRenderer, .prepareGui] ++
        (steering d previous next w ++ handBack previous next)) := by
  refine OfKinds.append ?_ ((ofKinds_settling previous next w).mono (by decide))
  simp [OfKinds, Call.kind]

/-- Arbitration on the request in force and on what the widgets want now. -/
theorem exec_settleCursor_recorded (s : RecordedWindow W α β Raw Frame) {next : Cursor.Applied}
    (hnext : next = Cursor.verdict s.cursor.request (signal d s.world.world)) :
    ∃ w, Adds d s.world
        (steering d s.cursor.applied next s.world.world ++ handBack s.cursor.applied next) w ∧
      exec (settleCursor d.recorded) s =
        (.ok (), { s with cursor := { s.cursor with applied := next }, world := w }) := by
  obtain ⟨hsteer, -⟩ := adds_apply (d := d) s.cursor.applied next s.world
  rw [settleCursor, exec_bind_of_ok (exec_get s)]
  dsimp only
  rw [exec_bind_of_ok (exec_set _ _), show (s.cursor.arbitrate (signal d.recorded s.world)
    d.recorded.platform.cursor s.world).1.applied = next from hnext.symm]
  unfold handBack
  split
  · refine ⟨d.recorded.gui.reclaimCursor
      (d.recorded.platform.cursor.apply s.cursor.applied next s.world),
      hsteer.append (adds_singleton (.reclaimCursor _) rfl), ?_⟩
    subst hnext
    rfl
  · refine ⟨d.recorded.platform.cursor.apply s.cursor.applied next s.world, ?_, ?_⟩
    · rw [List.append_nil]
      exact hsteer
    · subst hnext
      rfl

/-! ## Going on to the next frame -/

section Turn

variable [Scalar α]

/-- Pacing and counting a frame, which cannot fail. -/
theorem exec_pace_countFrame (s : RecordedWindow W α β Raw Frame) :
    ∃ s' calls, exec (do pace d.recorded; countFrame d.recorded) s = (.ok (), s') ∧
      Adds d s.world calls s'.world ∧ OfKinds [.pacing, .titling] calls ∧
      s'.config = s.config ∧ s'.cursor = s.cursor ∧ s'.drawn = s.drawn := by
  have hmakes : Makes d [.pacing, .titling] (fun s => (s.config, s.cursor, s.drawn))
      (do pace d.recorded; countFrame d.recorded : WindowM (Recorded W α Raw Frame) α β Unit) :=
    ((makes_pace (fun _ _ => rfl) fun _ _ => rfl).mono (by decide)).bind fun _ =>
      (makes_countFrame (fun _ _ => rfl) fun _ _ => rfl).mono (by decide)
  have hok : (exec (do pace d.recorded; countFrame d.recorded) s).1 = .ok () := by
    rw [exec_bind_of_ok (show exec (pace d.recorded) s = (.ok (), _) from rfl), countFrame,
      exec_bind_of_ok (exec_get _)]
    generalize (Pacing.Rate.tick _ _ : Option α × _) = tick
    rcases tick with ⟨_ | average, rate⟩ <;> rfl
  obtain ⟨hkeep, calls, hadds, hkinds⟩ := hmakes s
  refine ⟨_, calls, Prod.ext hok rfl, hadds, hkinds, ?_⟩
  simpa using hkeep

/-- The world in which the cursor of a frame is settled: the widgets know whether they may write the
cursor, and the next frame has begun. -/
def settlingWorld (d : Devices W α Raw Frame) (suppressed : Bool) (w : W) : W :=
  d.gui.prepare (d.renderer.prepare (d.gui.suppressCursor suppressed w))

theorem exec_turnFrame_recorded [Scalar β] (s s₁ : RecordedWindow W α β Raw Frame)
    (hcount : exec (do pace d.recorded; countFrame d.recorded) s = (.ok (), s₁))
    {next : Cursor.Applied}
    (hnext : next = Cursor.verdict s₁.cursor.request
      (signal d (settlingWorld d s₁.cursor.suppressesGui s₁.world.world))) :
    ∃ w, Adds d s₁.world
        ([.suppressCursor s₁.cursor.suppressesGui, .prepareRenderer, .prepareGui] ++
          (steering d s₁.cursor.applied next
              (settlingWorld d s₁.cursor.suppressesGui s₁.world.world) ++
            handBack s₁.cursor.applied next)) w ∧
      exec (Operation.turnFrame d.recorded) s =
        (.ok (), { s₁ with
          cursor := { s₁.cursor with applied := next }
          drawn := false
          world := w }) := by
  let w₁ : Recorded W α Raw Frame := d.recorded.gui.prepare (d.recorded.renderer.prepare
    (d.recorded.gui.suppressCursor s₁.cursor.suppressesGui s₁.world))
  let s₂ : RecordedWindow W α β Raw Frame := { s₁ with drawn := false, world := w₁ }
  obtain ⟨w, hadds, hexec⟩ := exec_settleCursor_recorded (d := d) s₂ hnext
  have hbegin : Adds d s₁.world
      [.suppressCursor s₁.cursor.suppressesGui, .prepareRenderer, .prepareGui] w₁ := by
    refine ⟨?_, ?_⟩
    · simp [w₁, Devices.recorded, Recorded.note]
    · exact .cons (.suppressCursor _ _) (.cons (.prepareRenderer _) (.single (.prepareGui _)))
  refine ⟨w, hbegin.append hadds, ?_⟩
  rw [Operation.turnFrame, ← bind_assoc, exec_bind_of_ok hcount, exec_bind_of_ok (exec_get _),
    exec_bind_of_ok (exec_act _ _)]
  exact hexec

/-- After its pump a show cannot fail. It paces and counts the frame, tells the widgets whether they
may write the cursor, begins the next frame, and settles the cursor on what the widgets want
then. -/
theorem exec_tail_showFrame [Scalar β] [Narrowing α β] (s : RecordedWindow W α β Raw Frame) :
    ∃ s' w paced next, exec (Operation.showFrame.tail d.recorded) s = (.ok .done, s') ∧
      Adds d s.world paced w ∧ OfKinds [.pacing, .titling] paced ∧
      next = Cursor.verdict s.cursor.request
        (signal d (settlingWorld d s.cursor.suppressesGui w.world)) ∧
      Adds d w ([.suppressCursor s.cursor.suppressesGui, .prepareRenderer, .prepareGui] ++
        (steering d s.cursor.applied next (settlingWorld d s.cursor.suppressesGui w.world) ++
          handBack s.cursor.applied next)) s'.world ∧
      s'.cursor = { s.cursor with applied := next } ∧ s'.drawn = false := by
  obtain ⟨s₁, paced, hcount, hpaced, hkinds, -, hcursor, -⟩ := exec_pace_countFrame (d := d) s
  obtain ⟨w, hturn, hexec⟩ := exec_turnFrame_recorded s s₁ hcount rfl
  have htail : exec (Operation.showFrame.tail d.recorded) s = (.ok .done, _) :=
    exec_bind_of_ok hexec _
  rw [hcursor] at hturn htail
  exact ⟨_, s₁.world, paced, _, htail, hpaced, hkinds, rfl, hturn, rfl, rfl⟩

/-- What an operation calls after it has pumped. -/
theorem exec_tail_pumps [Scalar β] {op : Operation (Recorded W α Raw Frame)}
    [Narrowing α β] (hop : op.pumps = true) {res : Except Halt (Answer α β)}
    (h : exec (op.tail d.recorded) s = (res, s')) :
    ∃ calls, Adds d s.world calls s'.world ∧
      OfKinds [.pacing, .titling, .suppressing, .preparing, .steering, .reclaiming] calls := by
  cases op with
  | showFrame =>
    obtain ⟨s₁, w, paced, next, hexec, hpaced, hkinds, -, hturn, -⟩ :=
      exec_tail_showFrame (d := d) s
    rw [hexec] at h
    cases h
    exact ⟨_, hpaced.append hturn,
      (hkinds.mono (by decide)).append ((ofKinds_turning _ _ _ _).mono (by decide))⟩
  | pollEvents filter | pollOneEvent filter =>
    cases h
    exact ⟨[], adds_nil, ofKinds_nil⟩
  | _ => cases hop

end Turn

end Window

/-! ## What a pump calls -/

/-- The call with which the widgets get the raw form of a report. -/
def Report.calls (r : Report α Raw) : List (Call α Raw Frame) := r.raw.toList.map .rawEvent

/-- The calls with which a size is waited for. -/
def Settling.calls (g : Settling α Raw) : List (Call α Raw Frame) :=
  (g.waits.flatMap fun x => [.framebufferSize x.1, .wait x.2]) ++ [.framebufferSize g.size]

/-- The calls with which a report is handed over. -/
def Delivery.calls : Delivery α Raw → List (Call α Raw Frame)
  | .plain r => r.calls
  | .resized r g => r.calls ++ g.calls ++ [.resize g.size (.ok ())]

/-- What a pump calls after its last delivery, by how it ends. -/
inductive Ending : Except Halt Unit → List (Call α Raw Frame) → Prop where
  | done : Ending (.ok ()) []
  | refused {r : Report α Raw} {g : Settling α Raw} {e : BackendError} : g.size.isEmpty = false →
      Ending (.error (.failed (.backend e))) (r.calls ++ g.calls ++ [.resize g.size (.error e)])
  | stalled {r : Report α Raw} {g : Settling α Raw} : Ending (.error .stalled) (r.calls ++ g.calls)

section Pumping

variable {d : Devices W α Raw Frame} {w w' : Recorded W α Raw Frame} {r : Report α Raw}
  {g : Settling α Raw} {ds : List (Delivery α Raw)}

theorem Report.kinds_calls (r : Report α Raw) :
    OfKinds [.pumping] (r.calls : List (Call α Raw Frame)) := by
  intro call hcall
  obtain ⟨raw, -, rfl⟩ := List.mem_map.1 hcall
  exact .head _

theorem Settling.kinds_calls (g : Settling α Raw) :
    OfKinds [.pumping] (g.calls : List (Call α Raw Frame)) := by
  refine OfKinds.append (fun call hcall => ?_) (ofKinds_singleton (.head _))
  obtain ⟨⟨size, batch⟩, -, hcall⟩ := List.mem_flatMap.1 hcall
  rcases List.mem_cons.1 hcall with rfl | hcall
  · exact .head _
  · obtain rfl := List.mem_singleton.1 hcall
    exact .head _

theorem Delivery.kinds_calls (x : Delivery α Raw) :
    OfKinds [.pumping, .resizing] (x.calls : List (Call α Raw Frame)) := by
  cases x with
  | plain r => exact r.kinds_calls.mono (by decide)
  | resized r g =>
    exact ((r.kinds_calls.append g.kinds_calls).mono (by decide)).append
      (ofKinds_singleton (.tail _ (.head _)))

theorem Delivery.kinds_flatMap_calls (ds : List (Delivery α Raw)) :
    OfKinds [.pumping, .resizing] (ds.flatMap calls : List (Call α Raw Frame)) := by
  intro call hcall
  obtain ⟨x, -, hcall⟩ := List.mem_flatMap.1 hcall
  exact x.kinds_calls call hcall

theorem Ending.kinds {res : Except Halt Unit} {last : List (Call α Raw Frame)}
    (h : Ending res last) : OfKinds [.pumping, .resizing] last := by
  cases h with
  | done => exact ofKinds_nil
  | @refused r g e _ =>
    exact ((r.kinds_calls.append g.kinds_calls).mono (by decide)).append
      (ofKinds_singleton (.tail _ (.head _)))
  | @stalled r g => exact (r.kinds_calls.append g.kinds_calls).mono (by decide)

namespace Recorded

theorem adds_forward (r : Report α Raw) (w : Recorded W α Raw Frame) :
    Adds d w r.calls (r.forward d.recorded.gui w) := by
  rcases r with ⟨o, _ | raw⟩
  · exact adds_nil
  · exact adds_singleton (.rawEvent raw w.world) rfl

theorem adds_poll (w : Recorded W α Raw Frame) :
    Adds d w [.poll (d.platform.poll w.world).1] (d.recorded.platform.poll w).2 :=
  adds_singleton (.poll w.world) rfl

theorem adds_waits (h : Waits d.recorded.platform w g w') : Adds d w g.calls w' := by
  induction h with
  | @last w w' size hread =>
    obtain ⟨rfl, rfl⟩ := Prod.mk.inj hread
    exact adds_singleton (.framebufferSize w.world) rfl
  | @again w w₁ w₂ w₃ size batch g hread _ hwait _ ih =>
    obtain ⟨rfl, rfl⟩ := Prod.mk.inj hread
    obtain ⟨rfl, rfl⟩ := Prod.mk.inj hwait
    have hread : Adds d w _ (d.recorded.platform.framebufferSize w).2 :=
      adds_singleton (.framebufferSize w.world) rfl
    have hwait : Adds d (d.recorded.platform.framebufferSize w).2 _
        (d.recorded.platform.wait (d.recorded.platform.framebufferSize w).2).2 :=
      adds_singleton (.wait (d.platform.framebufferSize w.world).2) rfl
    exact (hread.append hwait).append ih

theorem adds_resize {size : Extent} {outcome : Except BackendError Unit}
    (h : d.recorded.renderer.resize size w = (outcome, w')) :
    Adds d w [.resize size outcome] w' := by
  obtain ⟨rfl, rfl⟩ := Prod.mk.inj h
  exact adds_singleton (.resize size w.world) rfl

/-- Forwarding a report, waiting for a size and handing that size to the renderer. -/
theorem adds_settled {w₁ : Recorded W α Raw Frame} {outcome : Except BackendError Unit}
    (hw : Waits d.recorded.platform (r.forward d.recorded.gui w) g w₁)
    (hd : d.recorded.renderer.resize g.size w₁ = (outcome, w')) :
    Adds d w (r.calls ++ g.calls ++ [.resize g.size outcome]) w' :=
  ((adds_forward r w).append (adds_waits hw)).append (adds_resize hd)

end Recorded

namespace Window

open Recorded

variable [Scalar α] [Narrowing α β] {s s' : RecordedWindow W α β Raw Frame} {size : Extent}
  {batch : List (Report α Raw)} {p : Except Halt Unit × RecordedWindow W α β Raw Frame}

theorem Path.adds (h : Path d.recorded size s ds s') :
    Adds d s.world (ds.flatMap Delivery.calls) s'.world := by
  induction h with
  | nil => exact adds_nil
  | plain _ _ ih => exact (adds_forward _ _).append ih
  | resized _ hw _ hd _ ih => exact (adds_settled hw hd).append ih

theorem Ends.adds (h : Ends d.recorded s batch ds p) :
    ∃ last, Adds d s.world (ds.flatMap Delivery.calls ++ last) p.2.world ∧ Ending p.1 last := by
  cases h with
  | done _ hp => exact ⟨[], hp.adds.append adds_nil, .done⟩
  | refused _ hp hw hg hd => exact ⟨_, hp.adds.append (adds_settled hw hd), .refused hg⟩
  | stalled _ hp hw =>
    exact ⟨_, hp.adds.append ((adds_forward _ _).append (adds_waits hw)), .stalled⟩

/-- The calls of a pump: the poll, those of each delivery, and those with which it ends. -/
theorem exec_pump_adds (hs : s.Wired) :
    ∃ ds last, Ends d.recorded (s.inWorld (d.recorded.platform.poll s.world).2)
        (d.recorded.platform.poll s.world).1 ds (exec (pump d.recorded) s) ∧
      Adds d s.world
        (.poll (d.platform.poll s.world.world).1 :: (ds.flatMap Delivery.calls ++ last))
        (exec (pump d.recorded) s).2.world ∧
      Ending (exec (pump d.recorded) s).1 last := by
  obtain ⟨ds, hends⟩ := exec_pump_ends d.recorded s hs
  obtain ⟨last, hadds, hlast⟩ := hends.adds
  exact ⟨ds, last, hends, (adds_poll s.world).append hadds, hlast⟩

theorem pump_makes {γ : Type} {f : RecordedWindow W α β Raw Frame → γ} (hf : Deaf d.recorded f)
    (hs : s.Wired) {res : Except Halt Unit} (h : exec (pump d.recorded) s = (res, s')) :
    f s' = f s ∧ ∃ calls, Adds d s.world calls s'.world ∧ OfKinds [.pumping, .resizing] calls := by
  obtain ⟨ds, last, -, hadds, hlast⟩ := exec_pump_adds (d := d) hs
  have hkeep := hf.keeps_pump d.recorded hs
  rw [h] at hadds hkeep
  refine ⟨hkeep, _, hadds, ?_⟩
  have hpoll : OfKinds [.pumping, .resizing]
      [(.poll (d.platform.poll s.world.world).1 : Call α Raw Frame)] :=
    ofKinds_singleton (.head _)
  exact hpoll.append ((Delivery.kinds_flatMap_calls ds).append hlast.kinds)

/-- What opening a window calls. -/
theorem openWith_makes [Scalar β] {config : Config} {world : Recorded W α Raw Frame}
    (h : openWith d.recorded config world = (.ok (), s)) :
    ∃ calls, Adds d world calls s.world ∧ OfKinds [.pumping, .resizing, .preparing] calls := by
  obtain ⟨-, ds, s₁, hends, hprepare⟩ := openWith_ends h
  obtain ⟨last, hadds, hlast⟩ := hends.adds
  obtain ⟨-, calls, hadds', hkinds⟩ := (makes_prepareForNextFrame (d := d)
    (f := fun _ : RecordedWindow W α β Raw Frame => ()) (fun _ _ => rfl)
    (fun _ _ => rfl)).of_exec hprepare
  have hsettled := (Delivery.kinds_flatMap_calls ds).append hlast.kinds
  exact ⟨_, hadds.append hadds', (hsettled.mono (by decide)).append (hkinds.mono (by decide))⟩

end Window

end Pumping

/-! ## What an operation calls -/

namespace Operation

/-- Whether an operation is something that happens to the devices from outside. -/
def isOutside : Operation W → Bool
  | .outside _ => true
  | _ => false

/-- What happens from outside leaves `view` as it is. -/
def Spares {γ : Type} (view : W → γ) : Operation W → Prop
  | .outside g => ∀ w, view (g w) = view w
  | _ => True

/-- Whether an operation reads the frame at hand. -/
def isRead : Operation W → Bool
  | .dumpImage | .writeImage _ | .copyDepth _ => true
  | _ => false

/-- Whether an operation has to do with frames. -/
def isFrameWork : Operation W → Bool
  | .showFrame | .drawFrame | .dumpImage | .writeImage _ | .copyDepth _ => true
  | _ => false

/-- The kinds of call with which an operation says whether the window should close. -/
def closing : Operation W → List Call.Kind
  | .requestStop _ => [.closing]
  | _ => []

theorem closing_subset (op : Operation W) : op.closing ⊆ [.closing] := by
  cases op with
  | requestStop stop => exact List.Subset.refl _
  | _ => exact List.nil_subset _

open Window

/-- Reading the frame at hand with a step of the renderer. -/
def readFrame {r t : Type} (d : Devices W α Raw Frame) (g : W → Except BackendError r × W)
    (h : r → t) : WindowM W α β t := do
  ensureDrawn d
  let x ← attempt g
  finishRead d
  pure (h x)

section Reads

variable [Scalar α] [Narrowing α β] [Scalar β] (d : Devices W α Raw Frame)

theorem perform_dumpImage :
    (Operation.dumpImage).perform (β := β) d = readFrame d d.renderer.dump .picture := by
  simp only [perform, Window.dumpImage, readFrame, map_bind, map_pure]

theorem perform_writeImage (path : String) :
    (Operation.writeImage path).perform (β := β) d =
      readFrame d (d.renderer.writeImage path) fun _ => .done := by
  simp only [perform, Window.writeImage, readFrame, bind_assoc]

theorem perform_copyDepth (target : Array Float32) :
    (Operation.copyDepth target).perform (β := β) d =
      readFrame d (d.renderer.copyDepth target) .depth := by
  simp only [perform, Window.copyDepth, readFrame, map_bind, map_pure]

end Reads

/-- An operation that has nothing to do with frames and does not pump changes of the window only
what a host program can ask for, and of the devices whether the window is to be closed. -/
theorem keeps_idle [Scalar α] [Narrowing α β] [Scalar β] {d : Devices W α Raw Frame} {γ : Type}
    {f : Window W α β → γ} {op : Operation W}
    (hstop : ∀ s v, f (s.inWorld (d.platform.setCloseRequested v s.world)) = f s)
    (he : ∀ s e, f { s with events := e } = f s) (hi : ∀ s i, f { s with input := i } = f s)
    (hc : ∀ s, f { s with cursor := s.cursor.setRequest (op.onRequest s.cursor.request) } = f s)
    (hop : op.pumps = false) (hframe : op.isFrameWork = false) (hout : op.isOutside = false) :
    Keeps f (op.perform d) := by
  cases op with
  | pollEvents | pollOneEvent => cases hop
  | showFrame | drawFrame | dumpImage | writeImage | copyDepth => cases hframe
  | outside => cases hout
  | requestStop stop =>
    exact (keeps_get.bind fun _ => (keeps_act fun s => hstop s stop).ite (keeps_pure _)).bind
      fun _ => keeps_pure _
  | isRunning | isPressed | isAnyPressed | appliedCursor | shape =>
    exact keeps_get.bind fun _ => keeps_pure _
  | cursorPosition | currentEvent | guiWantsMouse | guiWantsKeyboard =>
    exact ((keeps_requireVisible _).bind fun _ => keeps_get.bind fun _ => keeps_pure _).map _
  | takeScrollDelta =>
    exact ((keeps_requireVisible _).bind fun _ => keeps_modifyGet fun s => hi s _).map _
  | setCurrentEvent e =>
    have hset : Keeps f (modify fun s => { s with events := s.events.setCurrent e } :
        WindowM W α β PUnit) := keeps_modify fun s => he s _
    exact ((keeps_requireVisible _).bind fun _ => hset).bind fun _ => keeps_pure _
  | setCursor index force =>
    refine Keeps.bind ((keeps_requireVisible _).bind fun _ => ?_) fun _ => keeps_pure _
    rcases hrequest : Cursor.Request.ofIndex index force with e | request
    · exact keeps_fail e
    · refine keeps_modify fun s => ?_
      have hset := hc s
      rwa [onRequest, hrequest] at hset
  | setCursorRequest request =>
    exact ((keeps_requireVisible _).bind fun _ => keeps_modify fun s => hc s).bind
      fun _ => keeps_pure _

section Makes

variable [Scalar α] [Narrowing α β] [Scalar β] {d : Devices W α Raw Frame} {γ : Type}
  {f : RecordedWindow W α β Raw Frame → γ} {op : Operation (Recorded W α Raw Frame)} (hf : Blind f)

include hf

/-- An operation that has nothing to do with frames and does not pump changes of the window only
what a host program can ask for. -/
theorem makes_idle_closing (he : ∀ s e, f { s with events := e } = f s)
    (hi : ∀ s i, f { s with input := i } = f s)
    (hc : ∀ s, f { s with cursor := s.cursor.setRequest (op.onRequest s.cursor.request) } = f s)
    (hop : op.pumps = false) (hframe : op.isFrameWork = false) (hout : op.isOutside = false) :
    Makes d op.closing f (op.perform d.recorded) := by
  cases op with
  | pollEvents | pollOneEvent => cases hop
  | showFrame | drawFrame | dumpImage | writeImage | copyDepth => cases hframe
  | outside => cases hout
  | requestStop stop =>
    exact (makes_get.bind fun _ =>
      (makes_act hf (notes_setCloseRequested stop)).ite (makes_pure _)).bind fun _ => makes_pure _
  | isRunning | isPressed | isAnyPressed | appliedCursor | shape =>
    exact makes_get.bind fun _ => makes_pure _
  | cursorPosition | currentEvent | guiWantsMouse | guiWantsKeyboard =>
    exact ((makes_requireVisible _).bind fun _ => makes_get.bind fun _ => makes_pure _).map _
  | takeScrollDelta =>
    exact ((makes_requireVisible _).bind fun _ =>
      makes_modifyGet (fun s => hi s _) fun _ => rfl).map _
  | setCurrentEvent e =>
    exact ((makes_requireVisible _).bind fun _ =>
      makes_modify (fun s => he s (s.events.setCurrent e)) fun _ => rfl).bind fun _ => makes_pure _
  | setCursor index force =>
    refine Makes.bind ((makes_requireVisible _).bind fun _ => ?_) fun _ => makes_pure _
    rcases hrequest : Cursor.Request.ofIndex index force with e | request
    · exact makes_fail e
    · refine makes_modify (fun s => ?_) fun _ => rfl
      have hset := hc s
      rwa [onRequest, hrequest] at hset
  | setCursorRequest request =>
    exact ((makes_requireVisible _).bind fun _ =>
      makes_modify (fun s => hc s) fun _ => rfl).bind fun _ => makes_pure _

theorem makes_idle (he : ∀ s e, f { s with events := e } = f s)
    (hi : ∀ s i, f { s with input := i } = f s)
    (hc : ∀ s, f { s with cursor := s.cursor.setRequest (op.onRequest s.cursor.request) } = f s)
    (hop : op.pumps = false) (hframe : op.isFrameWork = false) (hout : op.isOutside = false) :
    Makes d [.closing] f (op.perform d.recorded) :=
  (makes_idle_closing hf he hi hc hop hframe hout).mono op.closing_subset

section Drawing

variable (hd : ∀ s b, f { s with drawn := b } = f s)

include hd

omit [Scalar α] [Narrowing α β] [Scalar β] in
theorem makes_lead (op : Operation (Recorded W α Raw Frame)) :
    Makes d [.drawing, .presenting] f (op.lead d.recorded) := by
  cases op with
  | showFrame =>
    exact (makes_requireVisible _).bind fun _ =>
      ((makes_ensureDrawn hf hd).mono (by decide)).bind fun _ =>
        (makes_attempt hf notes_present).mono (by decide)
  | pollEvents | pollOneEvent => exact makes_requireVisible _
  | _ => exact makes_pure _

omit [Scalar α] [Narrowing α β] [Scalar β] in
theorem makes_readFrame {r t : Type}
    {g : Recorded W α Raw Frame → Except BackendError r × Recorded W α Raw Frame}
    (hg : Notes d [.reading] fun w => (g w).2) (h : r → t) :
    Makes d [.drawing, .reading, .preparing] f (readFrame d.recorded g h) :=
  ((makes_ensureDrawn hf hd).mono (by decide)).bind fun _ =>
    ((makes_attempt hf hg).mono (by decide)).bind fun _ =>
      ((makes_finishRead hf hd).mono (by decide)).bind fun _ => makes_pure _

/-- An operation on frames that does not pump draws, reads and turns the frame. -/
theorem makes_frameWork (hop : op.pumps = false) (hframe : op.isFrameWork = true) :
    Makes d [.drawing, .reading, .preparing] f (op.perform d.recorded) := by
  cases op with
  | showFrame => cases hop
  | drawFrame =>
    exact ((makes_drawFrame hf hd).bind fun _ => makes_pure _).mono (by decide)
  | dumpImage =>
    rw [perform_dumpImage]
    exact makes_readFrame hf hd notes_dump _
  | writeImage path =>
    rw [perform_writeImage]
    exact makes_readFrame hf hd (notes_writeImage path) _
  | copyDepth target =>
    rw [perform_copyDepth]
    exact makes_readFrame hf hd (notes_copyDepth target) _
  | _ => cases hframe

/-- An operation that does not pump may draw, read and turn the frame as well. -/
theorem makes_perform_closing (he : ∀ s e, f { s with events := e } = f s)
    (hi : ∀ s i, f { s with input := i } = f s)
    (hc : ∀ s, f { s with cursor := s.cursor.setRequest (op.onRequest s.cursor.request) } = f s)
    (hop : op.pumps = false) (hout : op.isOutside = false) :
    Makes d ([.drawing, .reading, .preparing] ++ op.closing) f (op.perform d.recorded) := by
  rcases hframe : op.isFrameWork with _ | _
  · exact (makes_idle_closing hf he hi hc hop hframe hout).mono (List.subset_append_right _ _)
  · exact (makes_frameWork hf hd hop hframe).mono (List.subset_append_left _ _)

theorem makes_perform (he : ∀ s e, f { s with events := e } = f s)
    (hi : ∀ s i, f { s with input := i } = f s)
    (hc : ∀ s, f { s with cursor := s.cursor.setRequest (op.onRequest s.cursor.request) } = f s)
    (hop : op.pumps = false) (hout : op.isOutside = false) :
    Makes d [.drawing, .reading, .preparing, .closing] f (op.perform d.recorded) :=
  (makes_perform_closing hf hd he hi hc hop hout).mono
    (List.append_subset.2 ⟨by decide, List.Subset.trans op.closing_subset (by decide)⟩)

end Drawing

end Makes

/-- What a poll calls. -/
theorem poll_makes [Scalar α] [Narrowing α β] [Scalar β] {d : Devices W α Raw Frame} {γ : Type}
    {f : RecordedWindow W α β Raw Frame → γ} (hf : Deaf d.recorded f)
    (he : ∀ s e, f { s with events := e } = f s) {s s' : RecordedWindow W α β Raw Frame}
    (hs : s.Wired) {op : Operation (Recorded W α Raw Frame)} (hop : op.pumps = true)
    (hframe : op.isFrameWork = false) {res : Except Halt (Answer α β)}
    (h : exec (op.perform d.recorded) s = (res, s')) :
    f s' = f s ∧
      ∃ calls, Recorded.Adds d s.world calls s'.world ∧ OfKinds [.pumping, .resizing] calls := by
  have hlead : Makes d [.pumping, .resizing] f (op.lead d.recorded) := by
    cases op with
    | pollEvents | pollOneEvent => exact makes_requireVisible _
    | showFrame => cases hframe
    | _ => exact makes_pure _
  have htail : Makes d [.pumping, .resizing] f (op.tail d.recorded) := by
    cases op with
    | pollEvents | pollOneEvent => exact makes_modifyGet (fun s => he s _) fun _ => rfl
    | showFrame => cases hframe
    | _ => cases hop
  cases pumping hop h with
  | refused hfirst => exact hlead.of_exec hfirst
  | broken hfirst hpump =>
    obtain ⟨hkeep, before, hbefore, hkinds⟩ := hlead.of_exec hfirst
    obtain ⟨hkeep', calls, hcalls, hkinds'⟩ := pump_makes hf (hs.lead hfirst) hpump
    exact ⟨hkeep'.trans hkeep, _, hbefore.append hcalls, hkinds.append hkinds'⟩
  | finished hfirst hpump hlast =>
    obtain ⟨hkeep, before, hbefore, hkinds⟩ := hlead.of_exec hfirst
    obtain ⟨hkeep', calls, hcalls, hkinds'⟩ := pump_makes hf (hs.lead hfirst) hpump
    obtain ⟨hkeep'', after, hafter, hkinds''⟩ := htail.of_exec hlast
    exact ⟨hkeep''.trans (hkeep'.trans hkeep), _, (hbefore.append hcalls).append hafter,
      (hkinds.append hkinds').append hkinds''⟩

end Operation

/-- In a turn nothing from outside touches what `view` shows. -/
def Turn.Spares {γ : Type} (view : W → γ) (turn : Turn W α β Raw) : Prop :=
  ∀ op, turn.operation = some op → op.Spares view

section Spares

variable {γ : Type} {view : W → γ} {batch : List (Report α Raw)} {ds : List (Delivery α Raw)}
  {a : Except WindowError (Answer α β)} {slot : Event}

theorem Turn.spares_none : (⟨none, batch, ds, a, slot⟩ : Turn W α β Raw).Spares view :=
  fun _ h => absurd h nofun

theorem Turn.spares_some {op : Operation W} (hop : op.Spares view) :
    (⟨some op, batch, ds, a, slot⟩ : Turn W α β Raw).Spares view := by
  intro op' hop'
  obtain rfl := Option.some.inj hop'
  exact hop

theorem spares_opened :
    ∀ turn ∈ [(⟨none, batch, ds, a, slot⟩ : Turn W α β Raw)], turn.Spares view :=
  List.forall_mem_singleton.2 Turn.spares_none

theorem spares_next {turns : List (Turn W α β Raw)} (h : ∀ turn ∈ turns, turn.Spares view)
    (op : Operation W) (hop : op.Spares view) :
    ∀ turn ∈ turns ++ [⟨some op, batch, ds, a, slot⟩], turn.Spares view :=
  List.forall_mem_append.2 ⟨h, List.forall_mem_singleton.2 (Turn.spares_some hop)⟩

end Spares

end WindowHost
