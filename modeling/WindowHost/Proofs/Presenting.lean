import Mathlib.Data.List.Induction
import WindowHost.Proofs.FrameProtocol
import WindowHost.Proofs.Size

/-!
# Frames that are presented again

A show presents the frame at hand and then pumps events. If a resize is refused in the pump, the
show fails, but its frame is on the screen and still counts as drawn (`alreadyShown`). The next show
presents it again and draws nothing. Main statement: a record presents a frame again
(`PresentedAgain`) exactly when its course has such a show after such a failure, with no draw that
succeeds in between.
-/

namespace WindowHost

variable {W α β Raw Frame : Type}

/-! ## Presenting in a record -/

/-- A frame was presented, and none was drawn since. -/
def PresentedSince (calls : List (Call α Raw Frame)) : Prop :=
  ∃ before after, calls = before ++ .present (.ok ()) :: after ∧
    ∀ frame, .draw frame (.ok ()) ∉ after

/-- Two presents have succeeded, and no draw in between. -/
def PresentedAgain (calls : List (Call α Raw Frame)) : Prop :=
  ∃ before after, calls = before ++ .present (.ok ()) :: after ∧ PresentedSince before

section Calls

variable {record calls lead : List (Call α Raw Frame)} {call : Call α Raw Frame}
  {kinds : List Call.Kind}

theorem not_presentedSince_nil : ¬ PresentedSince ([] : List (Call α Raw Frame)) := by
  rintro ⟨before, after, h, -⟩
  cases before <;> cases h

theorem not_presentedAgain_nil : ¬ PresentedAgain ([] : List (Call α Raw Frame)) := by
  rintro ⟨before, after, h, -⟩
  cases before <;> cases h

theorem presentedSince_concat :
    PresentedSince (record ++ [call]) ↔
      call = .present (.ok ()) ∨ PresentedSince record ∧ ∀ frame, call ≠ .draw frame (.ok ()) := by
  refine (exists_split_concat (Q := fun (_ after : List (Call α Raw Frame)) =>
    ∀ frame, .draw frame (.ok ()) ∉ after)).trans ?_
  constructor
  · rintro (⟨h, -⟩ | ⟨before, after, h, hnone⟩)
    · exact .inl h
    · refine .inr ⟨⟨before, after, h, fun frame hmem => hnone frame ?_⟩, ?_⟩
      · exact List.mem_append_left _ hmem
      · rintro frame rfl
        exact hnone frame (List.mem_append_right _ (.head _))
  · rintro (h | ⟨⟨before, after, h, hnone⟩, hcall⟩)
    · exact .inl ⟨h, fun _ => List.not_mem_nil⟩
    · refine .inr ⟨before, after, h, fun frame hmem => ?_⟩
      rcases List.mem_append.1 hmem with hmem | hmem
      · exact hnone frame hmem
      · exact hcall frame (List.mem_singleton.1 hmem).symm

theorem presentedAgain_concat :
    PresentedAgain (record ++ [call]) ↔
      PresentedAgain record ∨ call = .present (.ok ()) ∧ PresentedSince record := by
  refine (exists_split_concat (Q := fun before _ => PresentedSince before)).trans ?_
  exact or_comm

/-- Whether a frame was presented since the last draw, and whether one was presented again, after
one more call. -/
def Call.glance (seen : Bool × Bool) (call : Call α Raw Frame) : Bool × Bool :=
  match call with
  | .present (.ok ()) => (true, seen.2 || seen.1)
  | .draw _ (.ok ()) => (false, seen.2)
  | _ => seen

theorem glance_iff (calls : List (Call α Raw Frame)) :
    ((calls.foldl Call.glance (false, false)).1 = true ↔ PresentedSince calls) ∧
      ((calls.foldl Call.glance (false, false)).2 = true ↔ PresentedAgain calls) := by
  induction calls using List.reverseRecOn with
  | nil => simp [not_presentedSince_nil, not_presentedAgain_nil]
  | append_singleton calls call ih =>
    rw [List.foldl_append, presentedSince_concat, presentedAgain_concat, ← ih.1, ← ih.2,
      List.foldl_cons, List.foldl_nil]
    cases call with
    | present outcome | draw _ outcome => rcases outcome with e | ⟨⟩ <;> simp [Call.glance]
    | _ => simp [Call.glance]

instance : DecidablePred (PresentedSince : List (Call α Raw Frame) → Prop) :=
  fun calls => decidable_of_iff _ (glance_iff calls).1

instance : DecidablePred (PresentedAgain : List (Call α Raw Frame) → Prop) :=
  fun calls => decidable_of_iff _ (glance_iff calls).2

/-- Calls that neither draw nor present do not matter. -/
theorem presented_append_of_kinds (record : List (Call α Raw Frame)) (h : OfKinds kinds calls)
    (hdraw : .drawing ∉ kinds) (hpresent : .presenting ∉ kinds) :
    (PresentedSince (record ++ calls) ↔ PresentedSince record) ∧
      (PresentedAgain (record ++ calls) ↔ PresentedAgain record) := by
  induction calls generalizing record with
  | nil => simp
  | cons call calls ih =>
    have hkind : call.kind ∈ kinds := h call List.mem_cons_self
    have hnotPresent : call ≠ .present (.ok ()) := by
      rintro rfl
      exact hpresent hkind
    have hnotDraw (frame : Frame) : call ≠ .draw frame (.ok ()) := by
      rintro rfl
      exact hdraw hkind
    obtain ⟨hsince, hagain⟩ :=
      ih (record ++ [call]) fun call hcall => h call (List.mem_cons_of_mem _ hcall)
    rw [List.append_cons, hsince, hagain, presentedSince_concat, presentedAgain_concat]
    simp [hnotPresent, hnotDraw]

/-- Drawing the frame at hand once more. -/
theorem presented_append_draw (record : List (Call α Raw Frame)) (frame : Frame)
    (outcome : Except BackendError Unit) :
    (PresentedSince (record ++ [.endFrame frame, .draw frame outcome]) ↔
        outcome.isOk = false ∧ PresentedSince record) ∧
      (PresentedAgain (record ++ [.endFrame frame, .draw frame outcome]) ↔
        PresentedAgain record) := by
  rw [List.append_cons, presentedSince_concat, presentedAgain_concat, presentedSince_concat,
    presentedAgain_concat]
  rcases outcome with e | ⟨⟩ <;> simp [Except.isOk, Except.toBool]

theorem presented_append_ensured (record : List (Call α Raw Frame)) {drawn : Bool}
    (h : Ensured drawn lead) :
    (PresentedSince (record ++ lead) ↔ drawn = true ∧ PresentedSince record) ∧
      (PresentedAgain (record ++ lead) ↔ PresentedAgain record) := by
  cases h with
  | before => simp
  | now frame =>
    obtain ⟨hsince, hagain⟩ := presented_append_draw record frame (.ok ())
    rw [hsince, hagain]
    simp [Except.isOk, Except.toBool]

/-- Presenting a frame that was drawn now, or before. -/
theorem presented_append_present (record : List (Call α Raw Frame)) {drawn : Bool}
    (h : Ensured drawn lead) (outcome : Except BackendError Unit) (hkinds : OfKinds kinds calls)
    (hdraw : .drawing ∉ kinds) (hpresent : .presenting ∉ kinds) :
    (PresentedSince (record ++ (lead ++ .present outcome :: calls)) ↔
        outcome.isOk = true ∨ drawn = true ∧ PresentedSince record) ∧
      (PresentedAgain (record ++ (lead ++ .present outcome :: calls)) ↔
        PresentedAgain record ∨ outcome.isOk = true ∧ drawn = true ∧ PresentedSince record) := by
  obtain ⟨hsince, hagain⟩ :=
    presented_append_of_kinds (record ++ lead ++ [.present outcome]) hkinds hdraw hpresent
  obtain ⟨hsince', hagain'⟩ := presented_append_ensured record h
  rw [← List.append_assoc, List.append_cons, hsince, hagain, presentedSince_concat,
    presentedAgain_concat, hsince', hagain']
  rcases outcome with e | ⟨⟩ <;> simp [Except.isOk, Except.toBool]

theorem OfKinds.present_notMem (h : OfKinds kinds calls) (hpresent : .presenting ∉ kinds)
    (outcome : Except BackendError Unit) : .present outcome ∉ calls :=
  fun hmem => hpresent (h _ hmem)

end Calls

/-! ## Presenting in a course -/

/-- Whether the frame at hand is on the screen after an operation, where `presents` tells whether
the operation has presented it, and `shown` whether it was there before. A show that fails leaves it
there, a draw that succeeds gives a new one. -/
def Operation.onShown (op : Operation W) (ok presents shown : Bool) : Bool :=
  match op with
  | .showFrame => !ok && (presents || shown)
  | .drawFrame => !ok && shown
  | _ => shown

theorem Operation.onShown_of_isRead {op : Operation W} (h : op.isRead = true)
    (ok presents shown : Bool) : op.onShown ok presents shown = shown := by
  cases op <;> first | rfl | cases h

theorem Operation.onShown_aside {op : Operation W} (h : op.isFrameWork = false)
    (ok presents shown : Bool) : op.onShown ok presents shown = shown := by
  cases op <;> first | rfl | cases h

/-- What an operation presents, by what stands in the record before and after. -/
structure Work.Presents (record calls : List (Call α Raw Frame)) (op : Operation W)
    (ok presents shown drawn' : Bool) : Prop where
  atHand : op.onShown ok presents shown = true ↔ drawn' = true ∧ PresentedSince (record ++ calls)
  again : PresentedAgain (record ++ calls) ↔
    PresentedAgain record ∨ presents = true ∧ shown = true
  since : PresentedSince (record ++ calls) → presents = true ∨ PresentedSince record

section Work

variable {record calls lead : List (Call α Raw Frame)} {op : Operation W}
  {visible drawn ok drawn' presents shown : Bool} {kinds : List Call.Kind}

/-- Calls that present nothing and draw nothing, in an operation that leaves `drawn` alone. -/
theorem Work.presents_quiet (hkinds : OfKinds kinds calls) (hdraw : .drawing ∉ kinds)
    (hpresent : .presenting ∉ kinds) (hpresents : presents = true ↔ .present (.ok ()) ∈ calls)
    (hshown : shown = true ↔ drawn = true ∧ PresentedSince record)
    (hop : op.onShown ok presents shown = shown) :
    Work.Presents record calls op ok presents shown drawn := by
  obtain ⟨hsince, hagain⟩ := presented_append_of_kinds record hkinds hdraw hpresent
  have hno : ¬ presents = true := fun h => hkinds.present_notMem hpresent _ (hpresents.1 h)
  refine ⟨?_, ?_, fun h => .inr (hsince.1 h)⟩
  · rw [hop, hsince, hshown]
  · rw [hagain]
    simp [hno]

/-- Drawing the frame at hand, which may fail. -/
theorem Work.presents_draw {frame : Frame} {outcome : Except BackendError Unit}
    (hpresents : presents = true ↔ .present (.ok ()) ∈
      [(.endFrame frame : Call α Raw Frame), .draw frame outcome])
    (hshown : shown = true ↔ drawn = true ∧ PresentedSince record)
    (hop : op.onShown ok presents shown = (!outcome.isOk && shown)) :
    Work.Presents record [.endFrame frame, .draw frame outcome] op ok presents shown
      (drawn || outcome.isOk) := by
  obtain ⟨hsince, hagain⟩ := presented_append_draw record frame outcome
  have hno : ¬ presents = true := by
    intro h
    simpa using hpresents.1 h
  refine ⟨?_, ?_, fun h => .inr (hsince.1 h).2⟩
  · rw [hop, hsince, Bool.and_eq_true, hshown]
    rcases outcome with e | ⟨⟩ <;> simp [Except.isOk, Except.toBool]
  · rw [hagain]
    simp [hno]

/-- Reading a frame that was drawn now, or before. -/
theorem Work.presents_read (hlead : Ensured drawn lead) (hkinds : OfKinds kinds calls)
    (hdraw : .drawing ∉ kinds) (hpresent : .presenting ∉ kinds)
    (hpresents : presents = true ↔ .present (.ok ()) ∈ lead ++ calls)
    (hshown : shown = true ↔ drawn = true ∧ PresentedSince record)
    (hop : op.onShown ok presents shown = shown) :
    Work.Presents record (lead ++ calls) op ok presents shown true := by
  obtain ⟨hsince, hagain⟩ :=
    presented_append_of_kinds (record ++ lead) hkinds hdraw hpresent
  obtain ⟨hsince', hagain'⟩ := presented_append_ensured record hlead
  rw [List.append_assoc] at hsince hagain
  have hno : ¬ presents = true := by
    intro h
    rcases List.mem_append.1 (hpresents.1 h) with hmem | hmem
    · exact hlead.ofKinds.present_notMem (by decide) _ hmem
    · exact hkinds.present_notMem hpresent _ hmem
  refine ⟨?_, ?_, fun h => .inr (hsince'.1 (hsince.1 h)).2⟩
  · rw [hop, hsince, hsince', hshown]
    simp
  · rw [hagain, hagain']
    simp [hno]

/-- Presenting a frame that was drawn now, or before, and what follows in the same operation. -/
theorem Work.presents_present (hlead : Ensured drawn lead) {outcome : Except BackendError Unit}
    (hkinds : OfKinds kinds calls) (hdraw : .drawing ∉ kinds) (hpresent : .presenting ∉ kinds)
    (hpresents : presents = true ↔
      .present (.ok ()) ∈ lead ++ (.present outcome : Call α Raw Frame) :: calls)
    (hshown : shown = true ↔ drawn = true ∧ PresentedSince record)
    (hop : op.onShown ok presents shown = (drawn' && (presents || shown))) :
    Work.Presents record (lead ++ .present outcome :: calls) op ok presents shown drawn' := by
  obtain ⟨hsince, hagain⟩ :=
    presented_append_present record hlead outcome hkinds hdraw hpresent
  have hok : presents = true ↔ outcome.isOk = true := by
    have hbefore := hlead.ofKinds.present_notMem (by decide) (.ok ())
    have hafter := hkinds.present_notMem hpresent (.ok ())
    rw [hpresents]
    rcases outcome with e | ⟨⟩ <;> simp [hbefore, hafter, Except.isOk, Except.toBool]
  rw [← hok, ← hshown] at hsince hagain
  refine ⟨?_, hagain, fun h => (hsince.1 h).imp_right fun h => (hshown.1 h).2⟩
  rw [hop, hsince, Bool.and_eq_true, Bool.or_eq_true]

/-- What an operation presents, however it ends. -/
theorem Work.presented (h : Work visible drawn op calls ok drawn')
    (hpresents : presents = true ↔ .present (.ok ()) ∈ calls)
    (hshown : shown = true ↔ drawn = true ∧ PresentedSince record)
    (hvisible : PresentedSince record → visible = true) :
    Work.Presents record calls op ok presents shown drawn' := by
  have hunseen (hhidden : visible = false) : shown = false := by
    rw [← Bool.not_eq_true, hshown]
    rintro ⟨-, hsince⟩
    cases hhidden.symm.trans (hvisible hsince)
  cases h with
  | aside hop hkinds =>
    exact presents_quiet hkinds (by decide) (by decide) hpresents hshown
      (Operation.onShown_aside hop _ _ _)
  | draw frame outcome => exact presents_draw hpresents hshown rfl
  | hidden hhidden =>
    have hno : presents = false := by
      rw [← Bool.not_eq_true, hpresents]
      exact List.not_mem_nil
    exact presents_quiet ofKinds_nil List.not_mem_nil List.not_mem_nil hpresents hshown
      (by rw [hno]; rfl)
  | undrawn frame e hop hdrawn =>
    subst hdrawn
    have hno : presents = false := by
      rw [← Bool.not_eq_true, hpresents]
      simp
    refine presents_draw hpresents hshown ?_
    rcases hop with hop | rfl
    · exact Operation.onShown_of_isRead hop _ _ _
    · rw [hno]
      rfl
  | unread hop hlead hcall | read hop hlead hcall =>
    exact presents_read hlead (ofKinds_singleton (List.mem_singleton.2 hcall)) (by decide)
      (by decide) hpresents hshown (Operation.onShown_of_isRead hop _ _ _)
  | readLast hop hlead hcall hhidden =>
    have hop' := Operation.onShown_of_isRead hop true presents shown
    obtain ⟨-, hagain, hsince⟩ :=
      presents_read hlead (ofKinds_readLast hcall) (by decide) (by decide) hpresents hshown hop'
    refine ⟨?_, hagain, hsince⟩
    rw [hop', hunseen hhidden]
    simp
  | unpresented e hlead =>
    exact presents_present hlead ofKinds_nil List.not_mem_nil List.not_mem_nil hpresents hshown rfl
  | unpumped hlead hkinds =>
    exact presents_present hlead hkinds (by decide) (by decide) hpresents hshown rfl
  | shown hlead hbefore hlater =>
    exact presents_present hlead (ofKinds_shown hbefore hlater) (by decide) (by decide) hpresents
      hshown rfl

theorem Work.present_notMem (h : Work visible drawn op calls ok drawn') (hop : op ≠ .showFrame) :
    .present (.ok ()) ∉ calls := by
  have hread {lead later : List (Call α Raw Frame)} (hlead : Ensured drawn lead)
      (hlater : OfKinds [.reading, .preparing] later) : .present (.ok ()) ∉ lead ++ later := by
    have hkinds : OfKinds [.drawing, .reading, .preparing] (lead ++ later) :=
      (hlead.ofKinds.mono (by decide)).append (hlater.mono (by decide))
    exact hkinds.present_notMem (by decide) _
  cases h with
  | aside _ hkinds => exact hkinds.present_notMem (by decide) _
  | draw | undrawn => simp
  | unread _ hlead hcall | read _ hlead hcall =>
    exact hread hlead (ofKinds_singleton (hcall ▸ .head _))
  | readLast _ hlead hcall => exact hread hlead (ofKinds_readLast hcall)
  | hidden | unpresented | unpumped | shown => exact absurd rfl hop

theorem Work.present_mem
    (h : Work visible drawn (.showFrame : Operation W) calls true drawn') :
    .present (.ok ()) ∈ calls := by
  cases h with
  | shown => simp
  | aside hop => cases hop
  | read hop | readLast hop => cases hop

end Work

/-- Whether a turn has presented the frame at hand. A show that fails has done so if it has come to
pump events. -/
def Turn.presents (turn : Turn W α β Raw) : Bool :=
  match turn.operation with
  | some .showFrame => turn.answer.isOk || !turn.batch.isEmpty
  | _ => false

/-- Whether the frame at hand is on the screen after a turn. -/
def Turn.onShown (turn : Turn W α β Raw) (shown : Bool) : Bool :=
  match turn.operation with
  | some op => op.onShown turn.answer.isOk turn.presents shown
  | none => shown

/-- Whether the frame at hand is on the screen after some turns of a window. -/
def alreadyShown (turns : List (Turn W α β Raw)) : Bool :=
  turns.foldl (fun shown turn => turn.onShown shown) false

/-- A turn presents a frame that is on the screen already. -/
def ShownAgain (turns : List (Turn W α β Raw)) : Prop :=
  ∃ earlier turn later, turns = earlier ++ turn :: later ∧ turn.presents = true ∧
    alreadyShown earlier = true

theorem alreadyShown_concat (turns : List (Turn W α β Raw)) (turn : Turn W α β Raw) :
    alreadyShown (turns ++ [turn]) = turn.onShown (alreadyShown turns) := by
  rw [alreadyShown, List.foldl_append]
  rfl

theorem not_shownAgain_singleton {turn : Turn W α β Raw} (h : turn.presents = false) :
    ¬ ShownAgain [turn] := by
  rintro ⟨earlier, turn', later, hturns, hpresents, -⟩
  have hmem : turn' ∈ [turn] := by
    rw [hturns]
    simp
  rw [List.mem_singleton.1 hmem, h] at hpresents
  cases hpresents

theorem shownAgain_concat (turns : List (Turn W α β Raw)) (turn : Turn W α β Raw) :
    ShownAgain (turns ++ [turn]) ↔
      ShownAgain turns ∨ turn.presents = true ∧ alreadyShown turns = true := by
  have hsplit (last : Turn W α β Raw) := exists_split_concat (x := last) (y := turn) (l := turns)
    (Q := fun earlier _ => last.presents = true ∧ alreadyShown earlier = true)
  constructor
  · rintro ⟨earlier, last, later, h, hlast⟩
    rcases (hsplit last).1 ⟨earlier, later, h, hlast⟩ with ⟨rfl, hlast⟩ | ⟨earlier, later, h, hlast⟩
    · exact .inr hlast
    · exact .inl ⟨earlier, last, later, h, hlast⟩
  · rintro (⟨earlier, last, later, h, hlast⟩ | hlast)
    · obtain ⟨earlier, later, h, hlast⟩ := (hsplit last).2 (.inr ⟨earlier, later, h, hlast⟩)
      exact ⟨earlier, last, later, h, hlast⟩
    · exact ⟨turns, turn, [], rfl, hlast⟩

namespace Window

variable [Scalar α] [Narrowing α β] [Scalar β] {d : Devices W α Raw Frame} {config : Config}
  {world : W} {turns : List (Turn (Recorded W α Raw Frame) α β Raw)}
  {turn : Turn (Recorded W α Raw Frame) α β Raw} {s s' : RecordedWindow W α β Raw Frame}
  {calls : List (Call α Raw Frame)}

omit [Scalar α] [Narrowing α β] [Scalar β] in
theorem flatten_nil {ds : List (Delivery α Raw)} (h : Flatten [] ds) : ds = [] := by
  cases h
  rfl

omit [Scalar β] in
theorem Ends.batch_ne_nil {s s' : Window W α β} {batch : List (Report α Raw)}
    {ds : List (Delivery α Raw)} {e : Halt} (h : Ends d s batch ds (.error e, s')) :
    batch ≠ [] := by
  rintro rfl
  cases h with
  | refused hflat | stalled hflat => exact absurd (flatten_nil hflat) (by simp)

omit [Scalar α] [Narrowing α β] [Scalar β] in
/-- Only the show of a visible window gets so far as to pump, and then it has presented a frame. -/
theorem presents_of_lead {s₁ : RecordedWindow W α β Raw Frame}
    (h : exec (Operation.showFrame.lead d.recorded) s = (.ok (), s₁)) :
    s.config.showWindow = true ∧
      ∃ lead, s₁.world.calls = s.world.calls ++ (lead ++ [.present (.ok ())]) := by
  refine ⟨?_, ?_⟩
  · rcases hshow : s.config.showWindow with _ | _
    · have hhidden : ¬ s.config.showWindow = true := by
        rw [hshow]
        exact Bool.false_ne_true
      rw [Operation.lead, exec_bind_of_error (exec_requireVisible_error hhidden _)] at h
      cases h
    · rfl
  · rcases exec_lead_showFrame (d := d) s with
      ⟨-, hlead⟩ | ⟨-, _, _, _, -, hlead⟩ | ⟨lead, outcome, w, -, hadds, hlead⟩
    · cases h.symm.trans hlead
    · cases h.symm.trans hlead
    · rcases outcome with e | ⟨⟩
      · cases h.symm.trans hlead
      · cases h.symm.trans hlead
        exact ⟨lead, hadds.record⟩

omit [Scalar α] [Narrowing α β] [Scalar β] in
/-- A show that does not get so far has presented no frame. -/
theorem present_notMem_of_lead {e : Halt}
    (h : exec (Operation.showFrame.lead d.recorded) s = (.error e, s')) :
    ∃ calls, s'.world.calls = s.world.calls ++ calls ∧ .present (.ok ()) ∉ calls := by
  rcases exec_lead_showFrame (d := d) s with
    ⟨-, hlead⟩ | ⟨-, frame, e, w, hadds, hlead⟩ | ⟨lead, outcome, w, hensured, hadds, hlead⟩
  · cases h.symm.trans hlead
    exact ⟨[], (List.append_nil _).symm, List.not_mem_nil⟩
  · cases h.symm.trans hlead
    exact ⟨_, hadds.record, by simp⟩
  · rcases outcome with e | ⟨⟩
    · cases h.symm.trans hlead
      have hbefore := hensured.ofKinds.present_notMem (by decide) (.ok ())
      exact ⟨_, hadds.record, by simp [hbefore]⟩
    · cases h.symm.trans hlead

/-- A show has presented the frame at hand exactly when it has come to pump events. -/
theorem Step.present_mem_iff (hs : s.Wired) (h : Step d.recorded s turn s')
    (hop : turn.operation = some .showFrame) (hcalls : s'.world.calls = s.world.calls ++ calls) :
    (turn.presents = true ↔ .present (.ok ()) ∈ calls) ∧
      (turn.presents = true → s.config.showWindow = true) := by
  obtain ⟨op, hop', hexec⟩ := h.exec_eq
  obtain rfl := Option.some.inj (hop'.symm.trans hop)
  cases h with
  | alone hpumps =>
    obtain rfl := Option.some.inj hop
    cases hpumps
  | refused hpumps hlead =>
    obtain rfl := Option.some.inj hop
    obtain ⟨calls', hcalls', hnone⟩ := present_notMem_of_lead hlead
    obtain rfl := List.append_cancel_left (hcalls'.symm.trans hcalls)
    exact ⟨⟨nofun, fun hmem => absurd hmem hnone⟩, nofun⟩
  | @interrupted op s₁ w batch ds e s' hpumps hlead hpoll hpump hends =>
    obtain rfl := Option.some.inj hop
    obtain ⟨hvisible, lead, hrecord⟩ := presents_of_lead hlead
    obtain ⟨-, pumped, hadds, -⟩ := pump_makes deaf_drawn (hs.lead hlead) hpump
    have hpumped := hadds.record
    rw [hrecord, List.append_assoc] at hpumped
    obtain rfl := List.append_cancel_left (hpumped.symm.trans hcalls)
    -- a pump fails only over a report of its batch, and so the batch tells that it was reached
    have hpresents : Turn.presents
        (⟨some .showFrame, batch, ds, .error e, s'.events.current⟩ :
          Turn (Recorded W α Raw Frame) α β Raw) = true := by
      simp [Turn.presents, hends.batch_ne_nil]
    exact ⟨⟨fun _ => by simp, fun _ => hpresents⟩, fun _ => hvisible⟩
  | @pumped op s₁ w batch ds s₂ a s' hpumps hlead hpoll hpump hends htail =>
    obtain rfl := Option.some.inj hop
    obtain ⟨hvisible, -⟩ := presents_of_lead hlead
    obtain ⟨_, _, _, _, htail', -⟩ := exec_tail_showFrame (d := d) s₂
    obtain rfl : a = .ok .done := ok_of_mapError (congrArg Prod.fst (htail'.symm.trans htail))
    obtain ⟨calls', hadds, hwork⟩ := exec_perform_work hs rfl hexec
    obtain rfl := List.append_cancel_left (hadds.record.symm.trans hcalls)
    exact ⟨⟨fun _ => hwork.present_mem, fun _ => rfl⟩, fun _ => hvisible⟩

/-- What a step presents, by what stands in the record before and after. -/
theorem Step.presented (hs : s.Wired) (h : Step d.recorded s turn s')
    (hspares : turn.Spares Recorded.calls) {shown : Bool}
    (hshown : shown = true ↔ s.drawn = true ∧ PresentedSince s.world.calls)
    (hvisible : PresentedSince s.world.calls → s.config.showWindow = true) :
    (turn.onShown shown = true ↔ s'.drawn = true ∧ PresentedSince s'.world.calls) ∧
      (PresentedAgain s'.world.calls ↔
        PresentedAgain s.world.calls ∨ turn.presents = true ∧ shown = true) ∧
      (PresentedSince s'.world.calls → s.config.showWindow = true) := by
  obtain ⟨op, hop, hexec⟩ := h.exec_eq
  have honShown : turn.onShown shown = op.onShown turn.answer.isOk turn.presents shown := by
    rw [Turn.onShown, hop]
  rcases hout : op.isOutside with _ | _
  · obtain ⟨calls, hadds, hwork⟩ := exec_perform_work hs hout hexec
    rw [isOk_mapError] at hwork
    have hpresents : (turn.presents = true ↔ .present (.ok ()) ∈ calls) ∧
        (turn.presents = true → s.config.showWindow = true) := by
      by_cases hshow : op = .showFrame
      · subst hshow
        exact Step.present_mem_iff hs h hop hadds.record
      · have hnone : turn.presents = false := by
          unfold Turn.presents
          rw [hop]
          cases op <;> first | rfl | exact absurd rfl hshow
        rw [hnone]
        exact ⟨⟨nofun, fun hmem => absurd hmem (hwork.present_notMem hshow)⟩, nofun⟩
    obtain ⟨hatHand, hagain, hsince⟩ := hwork.presented hpresents.1 hshown hvisible
    rw [honShown, hadds.record]
    exact ⟨hatHand, hagain, fun h => (hsince h).elim hpresents.2 hvisible⟩
  · cases op with
    | outside g =>
      have hs' : s' = s.inWorld (g s.world) := (congrArg Prod.snd hexec).symm
      have hcalls : (g s.world).calls = s.world.calls := hspares _ hop s.world
      have hnone : turn.presents = false := by
        unfold Turn.presents
        rw [hop]
      subst hs'
      have hdrawn : (s.inWorld (g s.world)).drawn = s.drawn := rfl
      rw [honShown, hnone, hdrawn, inWorld_world, hcalls]
      exact ⟨hshown, by simp, hvisible⟩
    | _ => cases hout

/-! ## A whole course -/

theorem Course.presented (h : Course d.recorded config ⟨world, []⟩ turns s)
    (hout : ∀ turn ∈ turns, turn.Spares Recorded.calls) :
    (alreadyShown turns = true ↔ s.drawn = true ∧ PresentedSince s.world.calls) ∧
      (PresentedAgain s.world.calls ↔ ShownAgain turns) ∧
      (PresentedSince s.world.calls → config.showWindow = true) := by
  induction h with
  | @opened ds s₁ s hopen hends hprepare =>
    obtain ⟨last, hadds, hlast⟩ := hends.adds
    obtain ⟨w, hturn, hprepared⟩ := adds_turn (d := d) s₁
    rw [hprepared] at hprepare
    cases hprepare
    have hkinds : OfKinds [.pumping, .resizing, .preparing]
        (ds.flatMap Delivery.calls ++ last ++ [.prepareRenderer, .prepareGui]) :=
      (((Delivery.kinds_flatMap_calls ds).append hlast.kinds).mono (by decide)).append
        (by simp [OfKinds, Call.kind])
    have hrecord : w.calls = [] ++
        (ds.flatMap Delivery.calls ++ last ++ [.prepareRenderer, .prepareGui]) :=
      (hadds.append hturn).record
    obtain ⟨hsince, hagain⟩ :=
      presented_append_of_kinds [] hkinds (by decide) (by decide)
    rw [← hrecord] at hsince hagain
    refine ⟨⟨fun h => absurd h Bool.false_ne_true, fun h => absurd h.1 Bool.false_ne_true⟩,
      ⟨fun h => absurd (hagain.1 h) not_presentedAgain_nil,
        fun h => absurd h (not_shownAgain_singleton rfl)⟩,
      fun h => absurd (hsince.1 h) not_presentedSince_nil⟩
  | @next turns s turn s' hcourse hstep ih =>
    obtain ⟨hshown, hagain, hvisible⟩ :=
      ih fun turn hturn => hout turn (List.mem_append_left _ hturn)
    have hspares := hout turn (List.mem_append_right _ (.head _))
    have hshow : s.config.showWindow = config.showWindow := by rw [hcourse.config_eq]
    rw [← hshow] at hvisible ⊢
    obtain ⟨hatHand, hagain', hsince⟩ := hstep.presented hcourse.wired hspares hshown hvisible
    rw [alreadyShown_concat, shownAgain_concat, hagain', hagain]
    exact ⟨hatHand, Iff.rfl, hsince⟩

/-- In every course of a window, visible or not, two presents succeed with no draw that succeeds in
between exactly when some show presents a frame that a show before it had presented and then failed
while it pumped events, and no draw has succeeded since. After any turns, `alreadyShown` tells
whether the next show would do so: the frame at hand counts as drawn, and it was presented since the
last draw. -/
theorem presented_again_iff (h : Course d.recorded config ⟨world, []⟩ turns s)
    (hout : ∀ turn ∈ turns, turn.Spares Recorded.calls) :
    (PresentedAgain s.world.calls ↔
      ∃ earlier turn later, turns = earlier ++ turn :: later ∧ turn.presents = true ∧
        alreadyShown earlier = true) ∧
      (alreadyShown turns = true ↔ s.drawn = true ∧ PresentedSince s.world.calls) := by
  obtain ⟨hshown, hagain, -⟩ := h.presented hout
  exact ⟨hagain, hshown⟩

/-- A show whose pump is refused a size, with its answer and the window that it leaves. -/
def refusedShow :
    Except Halt (Answer Rat Rat) × RecordedWindow (Script.Stage Rat Unit) Rat Rat Unit Nat :=
  exec (Operation.showFrame.perform Script.devices.recorded)
    (resizingWindow.inWorld (refuseSize resizingWindow.world))

/-- The show after the one that has failed. -/
def secondShow :
    Except Halt (Answer Rat Rat) × RecordedWindow (Script.Stage Rat Unit) Rat Rat Unit Nat :=
  exec (Operation.showFrame.perform Script.devices.recorded) refusedShow.2

theorem presented_again_iff_refused :
    refusedShow.1.isOk = false ∧ secondShow.1.isOk = true ∧
      ∃ turns, Course Script.devices.recorded {} ⟨resizingStage, []⟩ turns secondShow.2 ∧
        ∃ earlier turn later, turns = earlier ++ turn :: later ∧ turn.presents = true ∧
          alreadyShown earlier = true := by
  obtain ⟨ds, h⟩ := exists_opened
    (show openWith Script.devices.recorded {} ⟨resizingStage, []⟩ = (.ok (), resizingWindow) from
      rfl)
  obtain ⟨batch₁, ds₁, h₁⟩ := h.exists_next (.outside refuseSize) (.ok .done) rfl
  obtain ⟨e, hrefused⟩ := exists_eq_failed (p := refusedShow) (by decide +kernel)
  obtain ⟨batch₂, ds₂, h₂⟩ := h₁.exists_next .showFrame (.error e) hrefused
  obtain ⟨a, hsecond⟩ := exists_eq_ok (p := secondShow) (by decide +kernel)
  obtain ⟨batch₃, ds₃, h₃⟩ := h₂.exists_next .showFrame (.ok a) hsecond
  have hspares : (Operation.outside refuseSize).Spares
      (Recorded.calls : Recorded (Script.Stage Rat Unit) Rat Unit Nat → _) := fun _ => rfl
  obtain ⟨hagain, -⟩ := presented_again_iff h₃
    (spares_next (spares_next (spares_next spares_opened _ hspares) .showFrame trivial)
      .showFrame trivial)
  exact ⟨by decide +kernel, by decide +kernel, _, h₃, hagain.1 (by decide +kernel)⟩

/-- A frame that is presented again with no draw in between: the first show presents it and fails
in its pump, and so the second show finds it drawn. -/
theorem frame_presented_again :
    refusedShow.1.isOk = false ∧ refusedShow.2.drawn = true ∧ secondShow.1.isOk = true ∧
      PresentedAgain secondShow.2.world.calls := by
  decide +kernel

end Window

end WindowHost
