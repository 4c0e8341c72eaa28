import WindowHost.Proofs.Place
import WindowHost.Proofs.Record

/-!
# The protocol of a frame

Calls that have to do with frames keep to a protocol: the widgets close a frame right before it is
drawn, only a frame that was drawn is presented or read, and the next frame begins with the renderer
and then with the widgets. `Phase` is where a record stands in that protocol, and every record of a
window is a run of it. So the flag `drawn` of a window says exactly that the renderer has drawn the
frame at hand.
-/

namespace WindowHost

variable {W α β Raw Frame : Type}

/-! ## The protocol -/

/-- The frame at hand was drawn: a draw has succeeded, and no frame has begun since. -/
def DrawnSince (calls : List (Call α Raw Frame)) : Prop :=
  ∃ before frame after, calls = before ++ .draw frame (.ok ()) :: after ∧ .prepareRenderer ∉ after

/-- Whether a call presents or reads the frame at hand. -/
def Call.usesFrame (call : Call α Raw Frame) : Bool :=
  call.kind == .presenting || call.kind == .reading

/-- Calls that have nothing to do with frames. -/
def Call.Kind.asides : List Call.Kind :=
  [.pumping, .resizing, .pacing, .titling, .closing, .suppressing, .steering, .reclaiming]

theorem Call.usesFrame_of_aside {call : Call α Raw Frame} (h : call.kind ∈ Kind.asides) :
    call.usesFrame = false := by
  unfold usesFrame
  generalize call.kind = kind at h
  cases kind <;> simp [Kind.asides] at h ⊢

theorem Call.Kind.drawing_not_mem_asides : drawing ∉ asides := by decide

/-- Where a record stands in the protocol. -/
inductive Phase (Frame : Type) where
  | stands (drawn : Bool)
  /-- The widgets have closed the frame, which is to be drawn now. -/
  | closed (drawn : Bool) (frame : Frame)
  /-- The renderer has begun the next frame, and the widgets have not. -/
  | turning

/-- What a call does to the phase. -/
inductive Phase.Moves : Phase Frame → Call α Raw Frame → Phase Frame → Prop where
  | aside {drawn call} : call.kind ∈ Call.Kind.asides → Moves (.stands drawn) call (.stands drawn)
  | close {drawn frame} : Moves (.stands drawn) (.endFrame frame) (.closed drawn frame)
  | draw {drawn frame outcome} :
      Moves (.closed drawn frame) (.draw frame outcome) (.stands (drawn || outcome.isOk))
  | use {call} : call.usesFrame = true → Moves (.stands true) call (.stands true)
  | prepareRenderer {drawn} : Moves (.stands drawn) .prepareRenderer .turning
  | prepareGui : Moves .turning .prepareGui (.stands false)

/-- Calls that lead from one phase to another. -/
inductive Phase.Run : Phase Frame → List (Call α Raw Frame) → Phase Frame → Prop where
  | nil {p} : Run p [] p
  | cons {p p' p'' call calls} : Moves p call p' → Run p' calls p'' → Run p (call :: calls) p''

namespace Phase

variable {p p' p'' : Phase Frame} {calls calls' : List (Call α Raw Frame)}
  {call : Call α Raw Frame}

theorem Run.append (h : Run p calls p') (h' : Run p' calls' p'') : Run p (calls ++ calls') p'' := by
  induction h with
  | nil => exact h'
  | cons hmove _ ih => exact .cons hmove (ih h')

theorem Run.split (h : Run p (calls ++ calls') p'') : ∃ p', Run p calls p' ∧ Run p' calls' p'' := by
  induction calls generalizing p with
  | nil => exact ⟨p, .nil, h⟩
  | cons call calls ih =>
    cases h with
    | cons hmove hrest =>
      obtain ⟨p', hrun, hrun'⟩ := ih hrest
      exact ⟨p', .cons hmove hrun, hrun'⟩

theorem run_singleton (h : Moves p call p') : Run p [call] p' := .cons h .nil

theorem run_asides {kinds : List Call.Kind} (hk : kinds ⊆ Call.Kind.asides)
    (h : OfKinds kinds calls) (drawn : Bool) : Run (.stands drawn) calls (.stands drawn) := by
  induction calls with
  | nil => exact .nil
  | cons call calls ih =>
    have hcall : call.kind ∈ Call.Kind.asides := hk (h call List.mem_cons_self)
    exact .cons (.aside hcall) (ih fun call hcall => h call (List.mem_cons_of_mem _ hcall))

theorem run_draw (drawn : Bool) (frame : Frame) (outcome : Except BackendError Unit) :
    Run (.stands drawn) [(.endFrame frame : Call α Raw Frame), .draw frame outcome]
      (.stands (drawn || outcome.isOk)) :=
  .cons .close (run_singleton .draw)

theorem run_turn (drawn : Bool) :
    Run (.stands drawn) [(.prepareRenderer : Call α Raw Frame), .prepareGui] (.stands false) :=
  .cons .prepareRenderer (run_singleton .prepareGui)

/-- What a phase says about the record that has led to it. -/
def Fits (calls : List (Call α Raw Frame)) : Phase Frame → Prop
  | .stands drawn => drawn = true ↔ DrawnSince calls
  | .closed drawn frame =>
    (drawn = true ↔ DrawnSince calls) ∧ ∃ before, calls = before ++ [.endFrame frame]
  | .turning => ¬ DrawnSince calls

end Phase

theorem not_drawnSince_nil : ¬ DrawnSince ([] : List (Call α Raw Frame)) := by
  rintro ⟨before, frame, after, h, -⟩
  cases before <;> cases h

theorem drawnSince_concat (calls : List (Call α Raw Frame)) (call : Call α Raw Frame) :
    DrawnSince (calls ++ [call]) ↔
      (∃ frame, call = .draw frame (.ok ())) ∨ DrawnSince calls ∧ call ≠ .prepareRenderer := by
  constructor
  · rintro ⟨before, frame, after, h, hnone⟩
    rcases List.eq_nil_or_concat after with rfl | ⟨after, last, rfl⟩
    · obtain ⟨-, hlast⟩ := List.append_inj' h rfl
      exact .inl ⟨frame, List.head_eq_of_cons_eq hlast⟩
    · rw [List.concat_eq_append] at h hnone
      rw [← List.cons_append, ← List.append_assoc] at h
      obtain ⟨rfl, hlast⟩ := List.append_inj' h rfl
      obtain rfl := List.head_eq_of_cons_eq hlast
      refine .inr ⟨⟨before, frame, after, rfl, fun hmem => hnone ?_⟩, fun hcall => hnone ?_⟩
      · exact List.mem_append_left _ hmem
      · rw [hcall]
        exact List.mem_append_right _ (.head _)
  · rintro (⟨frame, rfl⟩ | ⟨⟨before, frame, after, rfl, hnone⟩, hcall⟩)
    · exact ⟨calls, frame, [], rfl, List.not_mem_nil⟩
    · refine ⟨before, frame, after ++ [call], by simp, fun hmem => ?_⟩
      rcases List.mem_append.1 hmem with hmem | hmem
      · exact hnone hmem
      · exact hcall (List.mem_singleton.1 hmem).symm

theorem drawnSince_concat_of_kind {calls : List (Call α Raw Frame)} {call : Call α Raw Frame}
    (hdraw : call.kind ≠ .drawing) (hprepare : call.kind ≠ .preparing) :
    DrawnSince (calls ++ [call]) ↔ DrawnSince calls := by
  rw [drawnSince_concat]
  constructor
  · rintro (⟨frame, rfl⟩ | ⟨h, -⟩)
    · exact absurd rfl hdraw
    · exact h
  · exact fun h => .inr ⟨h, fun hcall => hprepare (by rw [hcall]; rfl)⟩

namespace Phase

variable {p p' : Phase Frame} {calls calls' before after : List (Call α Raw Frame)}
  {call : Call α Raw Frame}

theorem Moves.fits (h : Moves p call p') (hp : p.Fits calls) : p'.Fits (calls ++ [call]) := by
  cases h with
  | aside hcall =>
    refine hp.trans (drawnSince_concat_of_kind ?_ ?_).symm
    all_goals
      intro hkind
      rw [hkind] at hcall
      exact absurd hcall (by decide)
  | close =>
    refine ⟨hp.trans ?_, calls, rfl⟩
    rw [drawnSince_concat]
    constructor
    · exact fun h => .inr ⟨h, nofun⟩
    · rintro (⟨_, h⟩ | ⟨h, -⟩)
      · cases h
      · exact h
  | @draw drawn frame outcome =>
    show (drawn || outcome.isOk) = true ↔ _
    rw [drawnSince_concat, Bool.or_eq_true, hp.1, or_comm]
    refine or_congr ?_ ?_
    · rcases outcome with e | ⟨⟩
      · exact ⟨nofun, fun ⟨_, h⟩ => by cases h⟩
      · exact ⟨fun _ => ⟨frame, rfl⟩, fun _ => rfl⟩
    · exact ⟨fun h => ⟨h, nofun⟩, And.left⟩
  | use hcall =>
    refine hp.trans (drawnSince_concat_of_kind ?_ ?_).symm
    all_goals
      intro hkind
      rw [Call.usesFrame, hkind] at hcall
      exact absurd hcall (by decide)
  | prepareRenderer =>
    show ¬ DrawnSince _
    rw [drawnSince_concat]
    rintro (⟨_, h⟩ | ⟨-, h⟩)
    · cases h
    · exact h rfl
  | prepareGui =>
    show false = true ↔ _
    rw [drawnSince_concat]
    constructor
    · exact nofun
    · rintro (⟨_, h⟩ | ⟨h, -⟩)
      · cases h
      · exact absurd h hp

theorem Run.fits (h : Run p calls' p') (hp : p.Fits calls) : p'.Fits (calls ++ calls') := by
  -- the record before the run grows with each call of it
  induction h generalizing calls with
  | nil =>
    rw [List.append_nil]
    exact hp
  | cons hmove _ ih =>
    have hrest := ih (hmove.fits hp)
    rwa [List.append_assoc] at hrest

end Phase

/-! ## Orderly records -/

/-- The first phase of a record. -/
abbrev Phase.start : Phase Frame := .stands false

/-- Frames are presented and read only after they were drawn, and closed right before they are
drawn and at no other time. -/
structure Orderly (calls : List (Call α Raw Frame)) : Prop where
  drawn : ∀ before call after, calls = before ++ call :: after → call.usesFrame = true →
    DrawnSince before
  closed : ∀ before frame outcome after, calls = before ++ .draw frame outcome :: after →
    ∃ earlier, before = earlier ++ [.endFrame frame]
  draws : ∀ before frame after, calls = before ++ .endFrame frame :: after →
    ∃ outcome later, after = .draw frame outcome :: later

theorem Phase.fits_start : (Phase.start : Phase Frame).Fits ([] : List (Call α Raw Frame)) :=
  ⟨nofun, fun h => absurd h not_drawnSince_nil⟩

/-- A record that keeps to the protocol is orderly. -/
theorem Phase.Run.orderly {calls : List (Call α Raw Frame)} {drawn : Bool}
    (h : Run .start calls (.stands drawn)) : Orderly calls := by
  -- the phase between any two parts of the record fits the part before it
  have hmid (before : List (Call α Raw Frame)) (call : Call α Raw Frame)
      (after : List (Call α Raw Frame)) (hcalls : calls = before ++ call :: after) :
      ∃ p p', p.Fits before ∧ Moves p call p' ∧ Run p' after (.stands drawn) := by
    rw [hcalls] at h
    obtain ⟨p, hbefore, hrest⟩ := h.split
    cases hrest with
    | cons hmove hafter => exact ⟨p, _, hbefore.fits fits_start, hmove, hafter⟩
  refine ⟨fun before call after hcalls huse => ?_, fun before frame outcome after hcalls => ?_,
    fun before frame after hcalls => ?_⟩
  · obtain ⟨p, p', hfits, hmove, -⟩ := hmid before call after hcalls
    cases hmove with
    | use => exact hfits.1 rfl
    | aside hcall =>
      rw [Call.usesFrame_of_aside hcall] at huse
      cases huse
    | _ => cases huse
  · obtain ⟨p, p', hfits, hmove, -⟩ := hmid before _ after hcalls
    cases hmove with
    | draw => exact hfits.2
    | aside hcall => exact absurd hcall Call.Kind.drawing_not_mem_asides
    | use huse => cases huse
  · obtain ⟨p, p', hfits, hmove, hafter⟩ := hmid before _ after hcalls
    cases hmove with
    | close =>
      cases hafter with
      | cons hmove =>
        cases hmove with
        | draw => exact ⟨_, _, rfl⟩
    | aside hcall => exact absurd hcall Call.Kind.drawing_not_mem_asides
    | use huse => cases huse

/-! ## What operations do to a frame -/

/-- The calls that make sure that the frame at hand was drawn: none if it was. -/
inductive Ensured : Bool → List (Call α Raw Frame) → Prop where
  | before : Ensured true []
  | now (frame) : Ensured false [.endFrame frame, .draw frame (.ok ())]

/-- The calls of an operation, whether it succeeds, and whether the frame at hand then counts as
drawn, where `visible` and `drawn` tell of the window before. -/
inductive Work (visible drawn : Bool) :
    Operation W → List (Call α Raw Frame) → (ok drawn' : Bool) → Prop where
  | aside {op calls ok} : op.isFrameWork = false → OfKinds [.closing, .pumping, .resizing] calls →
      Work visible drawn op calls ok drawn
  | draw (frame outcome) : Work visible drawn .drawFrame [.endFrame frame, .draw frame outcome]
      outcome.isOk (drawn || outcome.isOk)
  | hidden : visible = false → Work visible drawn .showFrame [] false drawn
  | undrawn {op} (frame e) : op.isRead = true ∨ op = .showFrame → drawn = false →
      Work visible drawn op [.endFrame frame, .draw frame (.error e)] false false
  | unread {op lead call} : op.isRead = true → Ensured drawn lead → call.kind = .reading →
      Work visible drawn op (lead ++ [call]) false true
  | read {op lead call} : op.isRead = true → Ensured drawn lead → call.kind = .reading →
      visible = true → Work visible drawn op (lead ++ [call]) true true
  | readLast {op lead call} : op.isRead = true → Ensured drawn lead → call.kind = .reading →
      visible = false →
      Work visible drawn op (lead ++ [call, .prepareRenderer, .prepareGui]) true false
  | unpresented {lead} (e) : Ensured drawn lead →
      Work visible drawn .showFrame (lead ++ [.present (.error e)]) false true
  | unpumped {lead calls} : Ensured drawn lead → OfKinds [.pumping, .resizing] calls →
      Work visible drawn .showFrame (lead ++ .present (.ok ()) :: calls) false true
  | shown {lead calls later} : Ensured drawn lead →
      OfKinds [.pumping, .resizing, .pacing, .titling, .suppressing] calls →
      OfKinds [.steering, .reclaiming] later →
      Work visible drawn .showFrame
        (lead ++ .present (.ok ()) :: (calls ++ .prepareRenderer :: .prepareGui :: later))
        true false

section Work

open Phase

variable {lead calls later : List (Call α Raw Frame)} {drawn : Bool}

/-- A read that ends the frame. -/
theorem ofKinds_readLast {call : Call α Raw Frame} (h : call.kind = .reading) :
    OfKinds [.reading, .preparing] [call, .prepareRenderer, .prepareGui] :=
  .cons (h ▸ .head _) (.cons (.tail _ (.head _)) (ofKinds_singleton (.tail _ (.head _))))

/-- What a show calls after it has presented the frame. -/
theorem ofKinds_shown
    (hbefore : OfKinds [.pumping, .resizing, .pacing, .titling, .suppressing] calls)
    (hlater : OfKinds [.steering, .reclaiming] later) :
    OfKinds [.pumping, .resizing, .pacing, .titling, .suppressing, .preparing, .steering,
      .reclaiming] (calls ++ .prepareRenderer :: .prepareGui :: later) := by
  have hturn : OfKinds [.preparing, .steering, .reclaiming]
      (.prepareRenderer :: .prepareGui :: later) :=
    .cons (.head _) (.cons (.head _) (hlater.mono (by decide)))
  exact (hbefore.mono (by decide)).append (hturn.mono (by decide))

theorem Ensured.run (h : Ensured drawn lead) : Run (.stands drawn) lead (.stands true) := by
  cases h with
  | before => exact .nil
  | now frame => exact run_draw false frame (.ok ())

/-- Every operation keeps to the protocol, also one that fails. -/
theorem Work.run {visible ok drawn' : Bool} {op : Operation W}
    (h : Work visible drawn op calls ok drawn') : Run (.stands drawn) calls (.stands drawn') := by
  cases h with
  | aside _ hkinds => exact run_asides (by decide) hkinds drawn
  | draw frame outcome => exact run_draw drawn frame outcome
  | hidden => exact .nil
  | undrawn frame e _ hdrawn =>
    rw [hdrawn]
    exact run_draw false frame (.error e)
  | unread _ hlead hcall =>
    exact hlead.run.append (run_singleton (.use (by rw [Call.usesFrame, hcall]; rfl)))
  | read _ hlead hcall =>
    exact hlead.run.append (run_singleton (.use (by rw [Call.usesFrame, hcall]; rfl)))
  | readLast _ hlead hcall =>
    exact hlead.run.append (.cons (.use (by rw [Call.usesFrame, hcall]; rfl)) (run_turn true))
  | unpresented e hlead => exact hlead.run.append (run_singleton (.use rfl))
  | unpumped hlead hkinds =>
    exact hlead.run.append (.cons (.use rfl) (run_asides (by decide) hkinds true))
  | shown hlead hkinds hlater =>
    refine hlead.run.append (.cons (.use rfl) ((run_asides (by decide) hkinds true).append ?_))
    exact (run_turn true).append (run_asides (by decide) hlater false)

end Work

namespace Window

open Recorded (Adds adds_nil adds_singleton)

variable {d : Devices W α Raw Frame} {s s' : RecordedWindow W α β Raw Frame}

theorem adds_drawing (s : RecordedWindow W α β Raw Frame) :
    ∃ frame outcome w, Adds d s.world [.endFrame frame, .draw frame outcome] w ∧
      exec (drawFrame d.recorded) s =
        (outcome.mapError fun e => .failed (.backend e),
          { s with drawn := s.drawn || outcome.isOk, world := w }) := by
  rcases hframe : d.gui.endFrame s.world.world with ⟨frame, w₁⟩
  rcases hdraw : d.renderer.draw frame w₁ with ⟨outcome, w₂⟩
  have hend := Devices.Does.endFrame (d := d) s.world.world
  have hdoes := Devices.Does.draw (d := d) frame w₁
  rw [hframe] at hend
  rw [hdraw] at hdoes
  refine ⟨frame, outcome, ⟨w₂, s.world.calls ++ [.endFrame frame] ++ [.draw frame outcome]⟩,
    ⟨by simp, .cons hend (.single hdoes)⟩, ?_⟩
  have hask : d.recorded.gui.endFrame s.world =
      (frame, ⟨w₁, s.world.calls ++ [.endFrame frame]⟩) := by
    simp only [Devices.recorded, Recorded.noteAnswer, hframe]
  have htry : d.recorded.renderer.draw frame ⟨w₁, s.world.calls ++ [.endFrame frame]⟩ =
      (outcome, ⟨w₂, s.world.calls ++ [.endFrame frame] ++ [.draw frame outcome]⟩) := by
    simp only [Devices.recorded, Recorded.noteAnswer, hdraw]
  rw [drawFrame, exec_bind_of_ok (exec_ask _ _), hask]
  dsimp only
  rcases outcome with e | ⟨⟩
  · rw [exec_bind_of_error (exec_attempt_error htry)]
    refine Prod.ext rfl ?_
    simp [inWorld, Except.isOk, Except.toBool]
  · rw [exec_bind_of_ok (exec_attempt_ok htry), exec_modify]
    refine Prod.ext rfl ?_
    simp [inWorld, Except.isOk, Except.toBool]

/-- Making sure that the frame at hand was drawn succeeds, or the renderer fails to draw it now. -/
theorem exec_ensureDrawn_recorded (s : RecordedWindow W α β Raw Frame) :
    (∃ lead w, Ensured s.drawn lead ∧ Adds d s.world lead w ∧
      exec (ensureDrawn d.recorded) s = (.ok (), { s with drawn := true, world := w })) ∨
    s.drawn = false ∧ ∃ frame e w, Adds d s.world [.endFrame frame, .draw frame (.error e)] w ∧
      exec (ensureDrawn d.recorded) s = (.error (.failed (.backend e)), s.inWorld w) := by
  have hexec : exec (ensureDrawn d.recorded) s =
      if s.drawn then (.ok (), s) else exec (drawFrame d.recorded) s := by
    rw [ensureDrawn, exec_bind_of_ok (exec_get s)]
    cases s.drawn <;> rfl
  rw [hexec]
  rcases hdrawn : s.drawn with _ | _
  · obtain ⟨frame, outcome, w, hadds, hdraw⟩ := adds_drawing (d := d) s
    rw [if_neg nofun, hdraw]
    rcases outcome with e | ⟨⟩
    · refine .inr ⟨rfl, frame, e, w, hadds, ?_⟩
      show (_, ({ s with drawn := s.drawn || false, world := w } :
        RecordedWindow W α β Raw Frame)) = _
      rw [Bool.or_false]
      rfl
    · exact .inl ⟨_, w, .now frame, hadds, by rw [hdrawn]; rfl⟩
  · refine .inl ⟨[], s.world, .before, adds_nil, ?_⟩
    rw [if_pos rfl, ← hdrawn]

theorem adds_turn (s : RecordedWindow W α β Raw Frame) :
    ∃ w, Adds d s.world [.prepareRenderer, .prepareGui] w ∧
      exec (prepareForNextFrame d.recorded) s =
        (.ok (), { s with drawn := false, world := w }) := by
  refine ⟨d.recorded.gui.prepare (d.recorded.renderer.prepare s.world), ⟨?_, ?_⟩, rfl⟩
  · simp [Devices.recorded, Recorded.note]
  · exact .cons (.prepareRenderer _) (.single (.prepareGui _))

/-- What a read of the frame at hand calls. The frame ends with a read that succeeds if the window
is never shown. -/
theorem readFrame_work {r t : Type} {op : Operation (Recorded W α Raw Frame)}
    (hop : op.isRead = true)
    {g : Recorded W α Raw Frame → Except BackendError r × Recorded W α Raw Frame}
    (hg : Notes d [.reading] fun w => (g w).2) {h : r → t} {res : Except Halt t}
    (hexec : exec (Operation.readFrame d.recorded g h) s = (res, s')) :
    ∃ calls, Adds d s.world calls s'.world ∧
      Work s.config.showWindow s.drawn op calls res.isOk s'.drawn := by
  rcases exec_ensureDrawn_recorded (d := d) s with
    ⟨lead, w, hlead, hadds, hensure⟩ | ⟨hdrawn, frame, e, w, hadds, hensure⟩
  · obtain ⟨call, hdoes, hcalls, hkind⟩ := hg w
    have hreading : call.kind = .reading := List.mem_singleton.1 hkind
    have hread : Adds d s.world (lead ++ [call]) (g w).2 :=
      hadds.append (adds_singleton hdoes hcalls)
    rw [Operation.readFrame, exec_bind_of_ok hensure] at hexec
    rcases hanswer : g w with ⟨e | x, w'⟩
    · rw [hanswer] at hread
      rw [exec_bind_of_error (exec_attempt_error hanswer)] at hexec
      cases hexec
      exact ⟨_, hread, .unread hop hlead hreading⟩
    · rw [hanswer] at hread
      rw [exec_bind_of_ok (exec_attempt_ok hanswer), exec_bind, exec_finishRead_eq,
        inWorld_config] at hexec
      rcases hshow : s.config.showWindow with _ | _
      · obtain ⟨w'', hturn, hprepare⟩ :=
          adds_turn (d := d) (({ s with drawn := true, world := w } :
            RecordedWindow W α β Raw Frame).inWorld w')
        rw [if_neg (by rw [hshow]; exact Bool.false_ne_true), hprepare] at hexec
        cases hexec
        have hall := hread.append hturn
        rw [List.append_assoc] at hall
        exact ⟨_, hall, .readLast hop hlead hreading rfl⟩
      · rw [if_pos hshow] at hexec
        cases hexec
        exact ⟨_, hread, .read hop hlead hreading rfl⟩
  · rw [Operation.readFrame, exec_bind_of_error hensure] at hexec
    cases hexec
    refine ⟨_, hadds, ?_⟩
    show Work _ _ op _ false s.drawn
    rw [hdrawn]
    exact .undrawn frame e (.inl hop) rfl

/-- What showing a frame does before it pumps. -/
theorem exec_lead_showFrame (s : RecordedWindow W α β Raw Frame) :
    s.config.showWindow = false ∧ exec (Operation.showFrame.lead d.recorded) s =
        (.error (.failed (.noVisibleSurface .showFrame)), s) ∨
      (s.drawn = false ∧ ∃ frame e w,
        Adds d s.world [.endFrame frame, .draw frame (.error e)] w ∧
        exec (Operation.showFrame.lead d.recorded) s =
          (.error (.failed (.backend e)), s.inWorld w)) ∨
      ∃ lead outcome w, Ensured s.drawn lead ∧ Adds d s.world (lead ++ [.present outcome]) w ∧
        exec (Operation.showFrame.lead d.recorded) s =
          (outcome.mapError fun e => .failed (.backend e),
            { s with drawn := true, world := w }) := by
  rw [Operation.lead]
  rcases hshow : s.config.showWindow with _ | _
  · refine .inl ⟨rfl, ?_⟩
    have hhidden : ¬ s.config.showWindow = true := by
      rw [hshow]
      exact Bool.false_ne_true
    rw [exec_bind_of_error (exec_requireVisible_error hhidden _)]
  · refine .inr ?_
    rw [exec_bind_of_ok (exec_requireVisible_ok hshow _)]
    rcases exec_ensureDrawn_recorded (d := d) s with
      ⟨lead, w, hlead, hadds, hensure⟩ | ⟨hdrawn, frame, e, w, hadds, hensure⟩
    · refine .inr ⟨lead, (d.renderer.present w.world).1, (d.recorded.renderer.present w).2, hlead,
        hadds.append (adds_singleton (.present w.world) rfl), ?_⟩
      rw [exec_bind_of_ok hensure, exec_attempt]
      rfl
    · exact .inl ⟨hdrawn, frame, e, w, hadds, by rw [exec_bind_of_error hensure]⟩

variable [Scalar α] [Narrowing α β]

theorem deaf_drawn : Deaf d.recorded (Window.drawn : RecordedWindow W α β Raw Frame → Bool) :=
  ⟨fun _ => rfl, fun _ => rfl, fun _ => rfl, fun _ _ => rfl, fun _ _ => rfl, fun _ _ _ => rfl,
    fun _ _ => rfl⟩

variable [Scalar β]

theorem showFrame_work (hs : s.Wired) {res : Except Halt (Answer α β)}
    (h : exec (Operation.showFrame.perform d.recorded) s = (res, s')) :
    ∃ calls, Adds d s.world calls s'.world ∧
      Work s.config.showWindow s.drawn (.showFrame : Operation (Recorded W α Raw Frame)) calls
        res.isOk s'.drawn := by
  rw [Operation.perform_pumps d.recorded rfl] at h
  rcases exec_lead_showFrame (d := d) s with
    ⟨hhidden, hlead⟩ | ⟨hdrawn, frame, e, w, hadds, hlead⟩ |
    ⟨lead, outcome, w, hensured, hadds, hlead⟩
  · rw [exec_bind_of_error hlead] at h
    cases h
    exact ⟨[], adds_nil, .hidden hhidden⟩
  · rw [exec_bind_of_error hlead] at h
    cases h
    refine ⟨_, hadds, ?_⟩
    show Work _ _ _ _ false s.drawn
    rw [hdrawn]
    exact .undrawn frame e (.inr rfl) rfl
  · rcases outcome with e | ⟨⟩
    · rw [exec_bind_of_error hlead] at h
      cases h
      exact ⟨_, hadds, .unpresented e hensured⟩
    · rw [exec_bind_of_ok hlead] at h
      have hs₀ : ({ s with drawn := true, world := w } : RecordedWindow W α β Raw Frame).Wired := hs
      rcases hpump : exec (pump d.recorded)
        ({ s with drawn := true, world := w } : RecordedWindow W α β Raw Frame) with ⟨e | ⟨⟩, s₁⟩
      · rw [exec_bind_of_error hpump] at h
        cases h
        obtain ⟨hkeep, calls, hpumped, hkinds⟩ := pump_makes deaf_drawn hs₀ hpump
        have hall := hadds.append hpumped
        rw [List.append_assoc] at hall
        refine ⟨_, hall, ?_⟩
        rw [show s'.drawn = true from hkeep]
        exact .unpumped hensured hkinds
      · rw [exec_bind_of_ok hpump] at h
        obtain ⟨-, calls, hpumped, hkinds⟩ := pump_makes deaf_drawn hs₀ hpump
        obtain ⟨s₂, w', paced, next, hexec, hpaced, hpacing, -, hturn, -, hdrawn⟩ :=
          exec_tail_showFrame (d := d) s₁
        rw [hexec] at h
        cases h
        have hbefore : OfKinds [.pumping, .resizing, .pacing, .titling, .suppressing]
            (calls ++ (paced ++ [.suppressCursor s₁.cursor.suppressesGui])) :=
          (hkinds.mono (by decide)).append
            ((hpacing.mono (by decide)).append (ofKinds_singleton (by simp [Call.kind])))
        rw [hdrawn]
        refine ⟨_, ?_, .shown hensured hbefore (ofKinds_settling (d := d) s₁.cursor.applied next
          (settlingWorld d s₁.cursor.suppressesGui w'.world))⟩
        have hall := ((hadds.append hpumped).append hpaced).append hturn
        simpa only [List.append_assoc, List.cons_append, List.nil_append] using hall

/-- What an operation calls and what becomes of the frame at hand, however it ends. -/
theorem exec_perform_work (hs : s.Wired) {op : Operation (Recorded W α Raw Frame)}
    (hout : op.isOutside = false) {res : Except Halt (Answer α β)}
    (h : exec (op.perform d.recorded) s = (res, s')) :
    ∃ calls, Adds d s.world calls s'.world ∧
      Work s.config.showWindow s.drawn op calls res.isOk s'.drawn := by
  have hread {r : Type} (hop : op.isRead = true)
      {g : Recorded W α Raw Frame → Except BackendError r × Recorded W α Raw Frame}
      (hg : Notes d [.reading] fun w => (g w).2) {t : r → Answer α β}
      (hperform : op.perform d.recorded = Operation.readFrame d.recorded g t) :
      ∃ calls, Adds d s.world calls s'.world ∧
        Work s.config.showWindow s.drawn op calls res.isOk s'.drawn :=
    readFrame_work hop hg (hperform ▸ h)
  cases op with
  | showFrame => exact showFrame_work hs h
  | drawFrame =>
    obtain ⟨frame, outcome, w, hadds, hdraw⟩ := adds_drawing (d := d) s
    rw [Operation.perform, exec_bind, hdraw] at h
    rcases outcome with e | ⟨⟩ <;> cases h <;> exact ⟨_, hadds, .draw frame _⟩
  | dumpImage => exact hread rfl notes_dump (Operation.perform_dumpImage _)
  | writeImage path => exact hread rfl (notes_writeImage path) (Operation.perform_writeImage _ path)
  | copyDepth target =>
    exact hread rfl (notes_copyDepth target) (Operation.perform_copyDepth _ target)
  | pollEvents | pollOneEvent =>
    obtain ⟨hdrawn, calls, hadds, hkinds⟩ :=
      Operation.poll_makes deaf_drawn (fun _ _ => rfl) hs rfl rfl h
    rw [hdrawn]
    exact ⟨calls, hadds, .aside rfl (hkinds.mono (by decide))⟩
  | outside => cases hout
  | _ =>
    obtain ⟨hdrawn, calls, hadds, hkinds⟩ := (Operation.makes_idle (d := d)
      (f := Window.drawn) (fun _ _ => rfl) (fun _ _ => rfl) (fun _ _ => rfl) (fun _ => rfl)
      rfl rfl rfl).of_exec h
    rw [hdrawn]
    exact ⟨calls, hadds, .aside rfl (hkinds.mono (by decide))⟩

/-! ## What an operation may call -/

end Window

def Call.isDraw : Call α Raw Frame → Bool
  | .draw .. => true
  | _ => false

/-- Showing or reading a frame draws it at most once, and not at all if that was done. A read ends
the frame if it succeeds on a window that is never shown, and in no other case. -/
structure Moderate (visible : Bool) (record : List (Call α Raw Frame)) (op : Operation W)
    (calls : List (Call α Raw Frame)) (ok : Bool) : Prop where
  draws : op.isRead = true ∨ op = .showFrame →
    calls.countP Call.isDraw ≤ 1 ∧ (DrawnSince record → calls.countP Call.isDraw = 0)
  stays : op.isRead = true → visible = true → ∀ call ∈ calls, call.kind ≠ .preparing
  fails : op.isRead = true → ok = false → ∀ call ∈ calls, call.kind ≠ .preparing
  ends : op.isRead = true → visible = false → ok = true →
    ∃ lead call, calls = lead ++ [call, .prepareRenderer, .prepareGui] ∧ call.kind = .reading ∧
      ∀ call ∈ lead, call.kind ≠ .preparing

section Moderate

variable {visible drawn ok drawn' : Bool} {record lead calls : List (Call α Raw Frame)}
  {call : Call α Raw Frame} {kinds : List Call.Kind}

theorem OfKinds.countP_isDraw (h : OfKinds kinds calls) (hk : .drawing ∉ kinds) :
    calls.countP Call.isDraw = 0 := by
  refine List.countP_eq_zero.2 fun call hcall hdraw => hk ?_
  have hkind := h call hcall
  cases call with
  | draw => exact hkind
  | _ => cases hdraw

theorem OfKinds.ne (h : OfKinds kinds calls) {kind : Call.Kind} (hk : kind ∉ kinds) :
    ∀ call ∈ calls, call.kind ≠ kind :=
  fun call hcall hkind => hk (hkind ▸ h call hcall)

theorem Ensured.countP_isDraw (h : Ensured drawn lead) :
    lead.countP Call.isDraw = if drawn then 0 else 1 := by
  cases h <;> rfl

theorem Ensured.ofKinds (h : Ensured drawn lead) : OfKinds [.drawing] lead := by
  cases h with
  | before => exact ofKinds_nil
  | now frame => simp [OfKinds, Call.kind]

/-- After the drawing, what is left of showing or reading a frame draws nothing. -/
theorem Ensured.draws (h : Ensured drawn lead) (hrecord : drawn = true ↔ DrawnSince record)
    (hkinds : OfKinds kinds calls) (hk : .drawing ∉ kinds) :
    (lead ++ calls).countP Call.isDraw ≤ 1 ∧
      (DrawnSince record → (lead ++ calls).countP Call.isDraw = 0) := by
  rw [List.countP_append, h.countP_isDraw, hkinds.countP_isDraw hk, Nat.add_zero]
  refine ⟨by split <;> decide, fun hdrawn => ?_⟩
  rw [if_pos (hrecord.2 hdrawn)]

/-- A read without the turn of the frame. -/
theorem Ensured.ne_preparing (h : Ensured drawn lead) (hcall : call.kind = .reading) :
    ∀ c ∈ lead ++ [call], c.kind ≠ .preparing := by
  have hkinds : OfKinds [.drawing, .reading] (lead ++ [call]) :=
    (h.ofKinds.mono (by decide)).append (ofKinds_singleton (by rw [hcall]; decide))
  exact hkinds.ne (by decide)

theorem moderate_other {op : Operation W} (hread : op.isRead = false) (hshow : op ≠ .showFrame) :
    Moderate visible record op calls ok := by
  refine ⟨fun hop => ?_, fun hop => ?_, fun hop => ?_, fun hop => ?_⟩
  · rcases hop with hop | hop
    · exact absurd (hread.symm.trans hop) Bool.false_ne_true
    · exact absurd hop hshow
  all_goals exact absurd (hread.symm.trans hop) Bool.false_ne_true

theorem moderate_showFrame (hdraws : calls.countP Call.isDraw ≤ 1 ∧
    (DrawnSince record → calls.countP Call.isDraw = 0)) :
    Moderate visible record (.showFrame : Operation W) calls ok := by
  refine ⟨fun _ => hdraws, fun hop => ?_, fun hop => ?_, fun hop => ?_⟩
  all_goals exact absurd hop Bool.false_ne_true

theorem Work.moderate {op : Operation W} (h : Work visible drawn op calls ok drawn')
    (hrecord : drawn = true ↔ DrawnSince record) : Moderate visible record op calls ok := by
  cases h with
  | aside hop =>
    refine moderate_other ?_ ?_
    · cases op <;> first | rfl | cases hop
    · rintro rfl
      cases hop
  | draw frame outcome => exact moderate_other rfl nofun
  | hidden => exact moderate_showFrame ⟨Nat.zero_le 1, fun _ => rfl⟩
  | undrawn frame e hop hdrawn =>
    have hnot : ¬ DrawnSince record := by
      rw [← hrecord, hdrawn]
      exact Bool.false_ne_true
    have hkinds :
        OfKinds [.drawing] [(.endFrame frame : Call α Raw Frame), .draw frame (.error e)] := by
      simp [OfKinds, Call.kind]
    exact ⟨fun _ => ⟨Nat.le_refl 1, fun h => absurd h hnot⟩, fun _ _ => hkinds.ne (by decide),
      fun _ _ => hkinds.ne (by decide), fun _ _ hok => absurd hok Bool.false_ne_true⟩
  | unread hop hlead hcall =>
    have hdraws := hlead.draws hrecord (ofKinds_singleton (List.mem_singleton.2 hcall)) (by decide)
    exact ⟨fun _ => hdraws, fun _ _ => hlead.ne_preparing hcall,
      fun _ _ => hlead.ne_preparing hcall, fun _ _ hok => absurd hok Bool.false_ne_true⟩
  | read hop hlead hcall hvisible =>
    have hdraws := hlead.draws hrecord (ofKinds_singleton (List.mem_singleton.2 hcall)) (by decide)
    exact ⟨fun _ => hdraws, fun _ _ => hlead.ne_preparing hcall,
      fun _ hfailed => absurd hfailed.symm Bool.false_ne_true,
      fun _ hhidden => absurd (hhidden.symm.trans hvisible) Bool.false_ne_true⟩
  | @readLast _ lead call hop hlead hcall hhidden =>
    exact ⟨fun _ => hlead.draws hrecord (ofKinds_readLast hcall) (by decide),
      fun _ hvisible => absurd (hhidden.symm.trans hvisible) Bool.false_ne_true,
      fun _ hfailed => absurd hfailed.symm Bool.false_ne_true,
      fun _ _ _ => ⟨lead, call, rfl, hcall, hlead.ofKinds.ne (by decide)⟩⟩
  | unpresented e hlead =>
    have hkinds : OfKinds [.presenting] [(.present (.error e) : Call α Raw Frame)] :=
      ofKinds_singleton (.head _)
    exact moderate_showFrame (hlead.draws hrecord hkinds (by decide))
  | @unpumped lead pumped hlead hpumped =>
    have hkinds : OfKinds [.presenting, .pumping, .resizing] (.present (.ok ()) :: pumped) :=
      .cons (.head _) (hpumped.mono (by decide))
    exact moderate_showFrame (hlead.draws hrecord hkinds (by decide))
  | @shown lead before later hlead hbefore hlater =>
    have hkinds : OfKinds [.presenting, .pumping, .resizing, .pacing, .titling, .suppressing,
        .preparing, .steering, .reclaiming]
        (.present (.ok ()) :: (before ++ .prepareRenderer :: .prepareGui :: later)) :=
      .cons (.head _) ((ofKinds_shown hbefore hlater).mono (by decide))
    exact moderate_showFrame (hlead.draws hrecord hkinds (by decide))

end Moderate

namespace Window

variable [Scalar α] [Narrowing α β] [Scalar β] {d : Devices W α Raw Frame} {config : Config}
  {world : W} {turns : List (Turn (Recorded W α Raw Frame) α β Raw)}
  {s s' : RecordedWindow W α β Raw Frame} {op : Operation (Recorded W α Raw Frame)}

/-- However an operation ends, the record goes on with the protocol. -/
theorem exec_perform_run (hs : s.Wired) (hop : op.Spares Recorded.calls)
    {res : Except Halt (Answer α β)} (h : exec (op.perform d.recorded) s = (res, s'))
    (hrun : Phase.Run .start s.world.calls (.stands s.drawn)) :
    Phase.Run .start s'.world.calls (.stands s'.drawn) ∧
      ∃ calls, s'.world.calls = s.world.calls ++ calls ∧
        Moderate s.config.showWindow s.world.calls op calls res.isOk := by
  have hrecord : s.drawn = true ↔ DrawnSince s.world.calls := hrun.fits Phase.fits_start
  rcases hout : op.isOutside with _ | _
  · obtain ⟨calls, hadds, hwork⟩ := exec_perform_work hs hout h
    rw [hadds.record]
    exact ⟨hrun.append hwork.run, calls, rfl, hwork.moderate hrecord⟩
  · cases op with
    | outside g =>
      cases h
      have hcalls : (g s.world).calls = s.world.calls := hop s.world
      refine ⟨?_, [], hcalls.trans (List.append_nil _).symm, moderate_other rfl nofun⟩
      show Phase.Run .start (g s.world).calls (.stands s.drawn)
      rw [hcalls]
      exact hrun
    | _ => cases hout

/-- The record of a course is a run of the protocol. -/
theorem Course.run (h : Course d.recorded config ⟨world, []⟩ turns s)
    (hout : ∀ turn ∈ turns, turn.Spares Recorded.calls) :
    Phase.Run .start s.world.calls (.stands s.drawn) := by
  induction h with
  | @opened ds s₁ s hopen hends hprepare =>
    obtain ⟨last, hadds, hlast⟩ := hends.adds
    obtain ⟨w, hturn, hprepared⟩ := adds_turn (d := d) s₁
    rw [hprepared] at hprepare
    cases hprepare
    have hkinds : OfKinds [.pumping, .resizing] (ds.flatMap Delivery.calls ++ last) :=
      (Delivery.kinds_flatMap_calls ds).append hlast.kinds
    have hrecord := (hadds.append hturn).record
    rw [show (fresh d.recorded config ⟨world, []⟩ : RecordedWindow W α β Raw Frame).world.calls = []
      from rfl, List.nil_append] at hrecord
    show Phase.Run .start w.calls (.stands false)
    rw [hrecord]
    exact (Phase.run_asides (by decide) hkinds false).append (Phase.run_turn false)
  | @next turns s turn s' hcourse hstep ih =>
    have hbefore := ih fun turn hturn => hout turn (List.mem_append_left _ hturn)
    have hspares := hout turn (List.mem_append_right _ (.head _))
    obtain ⟨op, hop, hexec⟩ := hstep.exec_eq
    exact (exec_perform_run hcourse.wired (hspares op hop) hexec hbefore).1

/-- In every course of a window, visible or not, and after every further operation however it ends,
the flag `drawn` says that the renderer has drawn the frame at hand. So frames are presented and
read only after they were drawn, and each is closed right before it is drawn. Showing or reading
a frame draws it at most once, and only a read that succeeds on a window that is never shown ends
it. -/
theorem frame_protocol (h : Course d.recorded config ⟨world, []⟩ turns s)
    (hout : ∀ turn ∈ turns, turn.Spares Recorded.calls) :
    ((s.drawn = true ↔ DrawnSince s.world.calls) ∧ Orderly s.world.calls) ∧
      ∀ (op : Operation (Recorded W α Raw Frame)) res s', op.Spares Recorded.calls →
        exec (op.perform d.recorded) s = (res, s') →
        (s'.drawn = true ↔ DrawnSince s'.world.calls) ∧ Orderly s'.world.calls ∧
          ∃ calls, s'.world.calls = s.world.calls ++ calls ∧
            Moderate config.showWindow s.world.calls op calls res.isOk := by
  have hrun := h.run hout
  refine ⟨⟨hrun.fits Phase.fits_start, hrun.orderly⟩, fun op res s' hop hexec => ?_⟩
  obtain ⟨hrun', calls, hcalls, hmoderate⟩ := exec_perform_run h.wired hop hexec hrun
  have hshow : s.config.showWindow = config.showWindow := by rw [h.config_eq]
  rw [hshow] at hmoderate
  exact ⟨hrun'.fits Phase.fits_start, hrun'.orderly, calls, hcalls, hmoderate⟩

/-- A stage whose renderer fails to draw the first frame. -/
def dullStage : Script.Stage Rat Unit where
  platform := { size := ⟨2, 1⟩ }
  renderer := { size := ⟨2, 1⟩, failures := [(.draw, .surface "lost")] }
  gui := {}
  clock := {}

def hiddenConfig : Config := { showWindow := false, size := ⟨2, 1⟩ }

/-- A window without a surface, after a read that fails and a draw that does not. -/
def dullWindow : RecordedWindow (Script.Stage Rat Unit) Rat Rat Unit Nat :=
  (exec (do
    let _ ← Operation.drawFrame.perform Script.devices.recorded)
    (exec (Operation.dumpImage.perform Script.devices.recorded)
      (openWith Script.devices.recorded hiddenConfig ⟨dullStage, []⟩).2).2).2

theorem frame_protocol_hidden :
    dullWindow.drawn = true ∧ DrawnSince dullWindow.world.calls ∧
      ∃ calls,
        (exec (Operation.dumpImage.perform Script.devices.recorded) dullWindow).2.world.calls =
          dullWindow.world.calls ++ calls ∧
        calls.countP Call.isDraw = 0 ∧
        ∃ lead call, calls = lead ++ [call, .prepareRenderer, .prepareGui] ∧
          call.kind = .reading := by
  obtain ⟨ds, h⟩ := exists_opened
    (show openWith Script.devices.recorded hiddenConfig ⟨dullStage, []⟩ = (.ok (), _) from rfl)
  obtain ⟨batch₁, ds₁, h₁⟩ := h.exists_next .dumpImage (.error (.backend (.surface "lost"))) rfl
  obtain ⟨batch₂, ds₂, h₂⟩ := h₁.exists_next .drawFrame (.ok .done)
    (show _ = (_, dullWindow) from rfl)
  obtain ⟨⟨hdrawn, -⟩, hnext⟩ := frame_protocol h₂
    (spares_next (spares_next spares_opened .dumpImage trivial) .drawFrame trivial)
  have hflag : dullWindow.drawn = true := rfl
  obtain ⟨-, -, calls, hcalls, hmoderate⟩ := hnext .dumpImage _ _ trivial rfl
  obtain ⟨lead, call, hlead, hcall, -⟩ := hmoderate.ends rfl rfl rfl
  exact ⟨hflag, hdrawn.1 hflag, calls, hcalls, (hmoderate.draws (.inl rfl)).2 (hdrawn.1 hflag),
    lead, call, hlead, hcall⟩

end Window

end WindowHost
