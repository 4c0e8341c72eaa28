import WindowHost.Cursor.Arbiter

/-!
# The arbiter and its sink

A sink is written by its arbiter alone, and only when the driver of the cursor changes.
`Sink.logged` keeps a log of the writes, from which a sink that starts visible is read: whether it
is `hidden`, and the shape that it has accepted last. After every history of requests and
arbitrations the log agrees with the driver, `Agrees`.
-/

namespace WindowHost.Cursor

variable {W : Type}

/-! ## Writes -/

/-- A write to a sink, where a shape was accepted or not. -/
inductive Write where
  | visible (value : Bool)
  | shape (s : Shape) (accepted : Bool)
  deriving DecidableEq, Repr

/-- The same sink in a world with a log of the writes, in their order. -/
def Sink.logged (sink : Sink W) : Sink (W × List Write) where
  setVisible value w := (sink.setVisible value w.1, w.2 ++ [.visible value])
  setShape s w :=
    let (accepted, world) := sink.setShape s w.1
    (accepted, world, w.2 ++ [.shape s accepted])

namespace Write

/-- Whether a sink is hidden after one more write. -/
def hides (hidden : Bool) : Write → Bool
  | .visible value => !value
  | .shape .. => hidden

/-- The shape that was accepted last, after one more write. -/
def accepts (last : Option Shape) : Write → Option Shape
  | .shape s true => some s
  | _ => last

end Write

/-- Whether a sink that starts visible is hidden after some writes. -/
def hidden (writes : List Write) : Bool := writes.foldl Write.hides false

/-- The shape that a sink has accepted last. -/
def lastAccepted? (writes : List Write) : Option Shape := writes.foldl Write.accepts none

theorem hidden_append (writes later : List Write) :
    hidden (writes ++ later) = later.foldl Write.hides (hidden writes) := List.foldl_append

theorem lastAccepted?_append (writes later : List Write) :
    lastAccepted? (writes ++ later) = later.foldl Write.accepts (lastAccepted? writes) :=
  List.foldl_append

/-! ## Changes of the driver -/

/-- A shape as a display with the `supported` shapes shows it. -/
def Shape.shownBy (supported : Shape → Bool) (s : Shape) : Shape :=
  if supported s then s else .arrow

/-- What a change of the driver writes to a sink with the `supported` shapes. -/
def changeWrites (supported : Shape → Bool) (previous next : Applied) : List Write :=
  if previous = next then []
  else
    match next with
    | .userHidden => [.visible false]
    | .userShape s =>
      if supported s then [.visible true, .shape s true]
      else [.visible true, .shape s false, .shape .arrow (supported .arrow)]
    | .guiControlled => if previous = .userHidden then [.visible true] else []

/-- A sink answers by its set of shapes, whatever was written to it. -/
def Sink.Supports (sink : Sink W) (supported : Shape → Bool) : Prop :=
  ∀ s w, (sink.setShape s w).1 = supported s

section Changes

variable {sink : Sink W} {supported : Shape → Bool}

theorem setShape_logged (hsink : sink.Supports supported) (s : Shape) (v : W × List Write) :
    sink.logged.setShape s v =
      (supported s, (sink.setShape s v.1).2, v.2 ++ [.shape s (supported s)]) := by
  rw [← hsink s v.1]
  rfl

/-- Applying a change logs what the change writes. -/
theorem log_apply (hsink : sink.Supports supported) (previous next : Applied)
    (v : W × List Write) :
    (sink.logged.apply previous next v).2 = v.2 ++ changeWrites supported previous next := by
  unfold Sink.apply changeWrites
  by_cases hsame : previous = next
  · rw [if_pos hsame, if_pos hsame, List.append_nil]
  · rw [if_neg hsame, if_neg hsame]
    cases next with
    | userHidden => rfl
    | userShape s =>
      dsimp only
      rw [setShape_logged hsink]
      rcases hs : supported s with _ | _
      · simp [Sink.logged, hsink _ _]
      · simp [Sink.logged]
    | guiControlled =>
      dsimp only
      split
      · rfl
      · rw [List.append_nil]

/-- The log of a sink with the `supported` shapes agrees with who drives the cursor. -/
structure Agrees (supported : Shape → Bool) (applied : Applied) (writes : List Write) : Prop where
  hidden_iff : hidden writes = true ↔ applied = .userHidden
  shown : ∀ s, applied = .userShape s → lastAccepted? writes = some (s.shownBy supported)

/-- A change of the driver keeps the agreement. -/
theorem Agrees.change (harrow : supported .arrow = true) {previous : Applied}
    {writes : List Write} (h : Agrees supported previous writes) (next : Applied) :
    Agrees supported next (writes ++ changeWrites supported previous next) := by
  unfold changeWrites
  by_cases hsame : previous = next
  · rw [if_pos hsame, List.append_nil, ← hsame]
    exact h
  · rw [if_neg hsame]
    cases next with
    | userHidden =>
      refine ⟨?_, nofun⟩
      simp [hidden_append, Write.hides]
    | userShape s =>
      refine ⟨?_, fun s' hs' => ?_⟩
      · rcases hs : supported s with _ | _ <;> simp [hs, hidden_append, Write.hides]
      · cases hs'
        rcases hs : supported s with _ | _ <;>
          simp [lastAccepted?_append, Write.accepts, Shape.shownBy, hs, harrow]
    | guiControlled =>
      refine ⟨?_, nofun⟩
      -- only a hidden cursor needs a write to be seen again
      by_cases hhidden : previous = .userHidden
      · simp [hhidden, hidden_append, Write.hides]
      · have hvisible : hidden writes = false := by
          rw [← Bool.not_eq_true, h.hidden_iff]
          exact hhidden
        simp [hhidden, hvisible]

end Changes

/-! ## Histories -/

/-- What happens to an arbiter. -/
inductive Act where
  | request (r : Request)
  | arbitrate (signal : Signal)
  deriving DecidableEq, Repr

/-- An arbiter and the world of its sink after an act. -/
def Act.perform (sink : Sink W) (p : Arbiter × W) : Act → Arbiter × W
  | .request r => (p.1.setRequest r, p.2)
  | .arbitrate signal => p.1.arbitrate signal sink p.2

/-- A new arbiter over a sink, after some acts. -/
def Arbiter.after (sink : Sink W) (w : W) (acts : List Act) : Arbiter × W :=
  acts.foldl (Act.perform sink) ({}, w)

section Histories

variable {sink : Sink W} {supported : Shape → Bool}

theorem Agrees.perform (hsink : sink.Supports supported) (harrow : supported .arrow = true)
    {p : Arbiter × W × List Write} (h : Agrees supported p.1.applied p.2.2) (act : Act) :
    Agrees supported (act.perform sink.logged p).1.applied (act.perform sink.logged p).2.2 := by
  cases act with
  | request r => exact h
  | arbitrate signal =>
    have hlog := log_apply hsink p.1.applied (verdict p.1.request signal) p.2
    show Agrees supported _ (sink.logged.apply _ _ p.2).2
    rw [hlog]
    exact h.change harrow _

theorem Agrees.foldl (hsink : sink.Supports supported) (harrow : supported .arrow = true)
    {p : Arbiter × W × List Write} (h : Agrees supported p.1.applied p.2.2) (acts : List Act) :
    Agrees supported (acts.foldl (Act.perform sink.logged) p).1.applied
      (acts.foldl (Act.perform sink.logged) p).2.2 := by
  induction acts generalizing p with
  | nil => exact h
  | cons act acts ih => exact ih (h.perform hsink harrow act)

/-- After any history the log agrees with the driver. -/
theorem agrees_after (hsink : sink.Supports supported) (harrow : supported .arrow = true) (w : W)
    (acts : List Act) :
    Agrees supported (Arbiter.after sink.logged (w, []) acts).1.applied
      (Arbiter.after sink.logged (w, []) acts).2.2 := by
  have hnew : Agrees supported .guiControlled [] := ⟨by simp [hidden], nofun⟩
  exact hnew.foldl hsink harrow acts

theorem changeWrites_guiControlled (supported : Shape → Bool) (previous : Applied) :
    changeWrites supported previous .guiControlled =
      if previous = .userHidden then [.visible true] else [] := by
  unfold changeWrites
  rcases previous with _ | _ | _ <;> rfl

/-- Let a new arbiter over a visible sink with the `supported` shapes, an arrow among them, have had
any history, and let it arbitrate once more. Then the sink is hidden exactly if the host program
hides the cursor, and it has accepted last the shape with which the host program drives the cursor,
or an arrow in its place. Nothing was written unless the driver has changed, and the widgets get at
most a cursor back that was hidden. -/
theorem sink_follows_arbiter (hsink : sink.Supports supported) (harrow : supported .arrow = true)
    (w : W) (acts : List Act) (signal : Signal) {a a' : Arbiter} {v v' : W × List Write}
    (hbefore : Arbiter.after sink.logged (w, []) acts = (a, v))
    (hafter : a.arbitrate signal sink.logged v = (a', v')) :
    (hidden v'.2 = true ↔ a'.applied = .userHidden) ∧
      (∀ s, a'.applied = .userShape s →
        lastAccepted? v'.2 = some (if supported s then s else .arrow)) ∧
      ∃ writes, v'.2 = v.2 ++ writes ∧
        (a'.applied = a.applied → writes = []) ∧
        (a'.applied = .guiControlled →
          writes = if a.applied = .userHidden then [.visible true] else []) := by
  have hagrees := agrees_after hsink harrow w acts
  rw [hbefore] at hagrees
  have hsettled := hagrees.perform hsink harrow (.arbitrate signal)
  rw [Act.perform, hafter] at hsettled
  have hlog : v'.2 = v.2 ++ changeWrites supported a.applied a'.applied := by
    obtain ⟨rfl, rfl⟩ := Prod.mk.inj hafter
    exact log_apply hsink a.applied (verdict a.request signal) v
  refine ⟨hsettled.hidden_iff, hsettled.shown, _, hlog, fun hsame => ?_, fun hgui => ?_⟩
  · exact if_pos hsame.symm
  · rw [hgui, changeWrites_guiControlled]

end Histories

/-- A sink without a hand. -/
def handless : Sink Unit := ⟨fun _ w => w, fun s w => (s != .hand, w)⟩

/-- The host program hides the cursor and then asks for a hand; the sink shows an arrow. -/
theorem sink_follows_arbiter_handless :
    let acts : List Act :=
      [.request ⟨.hidden, false⟩, .arbitrate {}, .request ⟨.shape .hand, false⟩]
    let before := Arbiter.after handless.logged ((), []) acts
    let after := before.1.arbitrate {} handless.logged before.2
    before.1.applied = .userHidden ∧ hidden before.2.2 = true ∧
      after.1.applied = .userShape .hand ∧ hidden after.2.2 = false ∧
      lastAccepted? after.2.2 = some .arrow := by
  intro acts before after
  have hsink : handless.Supports (· != .hand) := fun _ _ => rfl
  obtain ⟨hhidden, hshape, -⟩ := sink_follows_arbiter hsink (by decide) () acts {}
    (show Arbiter.after handless.logged ((), []) acts = (before.1, before.2) from rfl)
    (show _ = (after.1, after.2) from rfl)
  refine ⟨rfl, rfl, rfl, ?_, hshape .hand rfl⟩
  rw [← Bool.not_eq_true, hhidden]
  decide

end WindowHost.Cursor
