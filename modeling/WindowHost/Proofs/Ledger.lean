import WindowHost.Proofs.Pumping

/-!
# The ledger of events

The `Ledger` of a course numbers the button events in the order in which they arrive and follows
what becomes of each: it waits in the queue, or it was given to the host program. Taking events is
a `Split` of those that wait, and a split keeps the ledger `Sound`.
-/

namespace WindowHost

variable {W α β Raw Frame : Type}

/-! ## Splits -/

/-- Numbered events that wait are split into those that are taken and those that are left. Within
each kind the ones taken come first. -/
structure Split (waiting taken left : List (Event × Nat)) : Prop where
  perm : (taken ++ left).Perm waiting
  sublist : left.Sublist waiting
  kinds : ∀ kind : Event.Kind,
    (taken ++ left).filter (fun x => x.1.kind = kind) = waiting.filter (fun x => x.1.kind = kind)

/-- Whether a filter lets a numbered event pass. -/
def passes (filter : Event.Kind) (x : Event × Nat) : Bool := x.1.passes filter

theorem passes_congr {filter : Event.Kind} {x y : Event × Nat} (h : x.1.kind = y.1.kind) :
    passes filter x = passes filter y := by
  unfold passes Event.passes
  rw [h]

/-- A filter lets all events of a kind pass, or none. -/
theorem kind_and_passes (kind filter : Event.Kind) (x : Event × Nat) :
    (decide (x.1.kind = kind) && passes filter x) =
      (decide (x.1.kind = kind) && kind.passes filter) := by
  by_cases hx : x.1.kind = kind
  · rw [passes, Event.passes, hx]
  · simp [hx]

theorem kind_and_not_passes (kind filter : Event.Kind) (x : Event × Nat) :
    (decide (x.1.kind = kind) && !passes filter x) =
      (decide (x.1.kind = kind) && !kind.passes filter) := by
  by_cases hx : x.1.kind = kind
  · rw [passes, Event.passes, hx]
  · simp [hx]

/-- Taking all events that pass a filter is a split. -/
theorem split_filter (filter : Event.Kind) (waiting : List (Event × Nat)) :
    Split waiting (waiting.filter (passes filter)) (waiting.filter (! passes filter ·)) where
  perm := List.filter_append_perm _ _
  sublist := List.filter_sublist
  kinds kind := by
    simp only [List.filter_append, List.filter_filter, kind_and_passes, kind_and_not_passes]
    cases kind.passes filter <;> simp

/-- Taking the first event that passes a filter is a split. -/
theorem split_first {filter : Event.Kind} {waiting : List (Event × Nat)} {x : Event × Nat}
    (h : waiting.find? (passes filter) = some x) :
    Split waiting [x] (waiting.eraseP (passes filter)) := by
  obtain ⟨hx, before, after, rfl, hbefore⟩ := List.find?_eq_some_iff_append.1 h
  have herase : (before ++ x :: after).eraseP (passes filter) = before ++ after := by
    rw [List.eraseP_append_right _ fun y hy => by simpa using hbefore y hy,
      List.eraseP_cons_of_pos hx]
  rw [herase]
  have hperm : (x :: (before ++ after)).Perm (before ++ x :: after) := List.perm_middle.symm
  refine ⟨hperm, ?_, fun kind => ?_⟩
  · exact (List.Sublist.refl before).append (List.sublist_cons_self x after)
  · by_cases hkind : x.1.kind = kind
    · -- nothing of this kind comes before the first that passes
      have hnone : before.filter (fun y => decide (y.1.kind = kind)) = [] := by
        refine List.filter_eq_nil_iff.2 fun y hy hyk => ?_
        have hsame : passes filter y = passes filter x :=
          passes_congr (by rw [hkind]; simpa using hyk)
        have hnot := hbefore y hy
        rw [hsame, hx] at hnot
        cases hnot
      simp [List.filter_append, hkind, hnone]
    · simp [List.filter_append, hkind]

/-! ## Ledgers -/

theorem pairwise_zipIdx {ρ : Type} (l : List ρ) (start : Nat) :
    (l.zipIdx start).Pairwise (·.2 < ·.2) := by
  induction l generalizing start with
  | nil => exact .nil
  | cons r l ih =>
    rw [List.zipIdx_cons]
    refine .cons (fun x hx => ?_) (ih (start + 1))
    have hle := List.le_snd_of_mem_zipIdx hx
    exact hle

/-- The events that have arrived, in their order, and which of them wait and which were given out,
each with the number of its arrival. -/
structure Ledger where
  arrived : List Event := []
  waiting : List (Event × Nat) := []
  handed : List (Event × Nat) := []

namespace Ledger

/-- New events join those that wait. -/
def arrive (l : Ledger) (es : List Event) : Ledger :=
  { l with
    arrived := l.arrived ++ es
    waiting := l.waiting ++ es.zipIdx l.arrived.length }

/-- All events that pass the filter are given out. -/
def take (l : Ledger) (filter : Event.Kind) : Ledger :=
  { l with
    waiting := l.waiting.filter (! passes filter ·)
    handed := l.handed ++ l.waiting.filter (passes filter) }

/-- The first event that passes the filter is given out, if there is one. -/
def takeFirst (l : Ledger) (filter : Event.Kind) : Ledger :=
  match l.waiting.find? (passes filter) with
  | some x =>
    { l with
      waiting := l.waiting.eraseP (passes filter)
      handed := l.handed ++ [x] }
  | none => l

/-- What a turn gives out. -/
def settle (l : Ledger) (turn : Turn W α β Raw) : Ledger :=
  match turn.operation, turn.answer with
  | some (.pollEvents filter), .ok _ => l.take filter
  | some (.pollOneEvent filter), .ok _ => l.takeFirst filter
  | _, _ => l

def follow (l : Ledger) (turn : Turn W α β Raw) : Ledger :=
  (l.arrive (Delivery.events turn.delivered)).settle turn

def ofTurns (turns : List (Turn W α β Raw)) : Ledger := turns.foldl follow {}

theorem ofTurns_append (turns : List (Turn W α β Raw)) (turn : Turn W α β Raw) :
    ofTurns (turns ++ [turn]) = (ofTurns turns).follow turn := by
  rw [ofTurns, List.foldl_append]
  rfl

/-- What was given out and what waits are together all that has arrived. The numbers of those that
wait increase, and within each kind so do the numbers of those that were given out. -/
structure Sound (l : Ledger) : Prop where
  perm : (l.handed ++ l.waiting).Perm l.arrived.zipIdx
  ordered : l.waiting.Pairwise (·.2 < ·.2)
  kinds : ∀ kind : Event.Kind,
    ((l.handed ++ l.waiting).filter fun x => x.1.kind = kind).Pairwise (·.2 < ·.2)

theorem Sound.lt_length {l : Ledger} (hl : l.Sound) {x : Event × Nat}
    (hx : x ∈ l.handed ++ l.waiting) : x.2 < l.arrived.length := by
  have hmem := List.snd_lt_of_mem_zipIdx (hl.perm.mem_iff.1 hx)
  omega

theorem Sound.arrive {l : Ledger} (hl : l.Sound) (es : List Event) : (l.arrive es).Sound := by
  have hnew {x y : Event × Nat} (hx : x ∈ l.handed ++ l.waiting)
      (hy : y ∈ es.zipIdx l.arrived.length) : x.2 < y.2 :=
    Nat.lt_of_lt_of_le (hl.lt_length hx) (List.le_snd_of_mem_zipIdx hy)
  refine ⟨?_, ?_, fun kind => ?_⟩
  · show (l.handed ++ (l.waiting ++ _)).Perm (l.arrived ++ es).zipIdx
    rw [List.zipIdx_append, ← List.append_assoc, Nat.zero_add]
    exact hl.perm.append_right _
  · refine List.pairwise_append.2 ⟨hl.ordered, pairwise_zipIdx es _, fun x hx y hy => ?_⟩
    exact hnew (List.mem_append_right _ hx) hy
  · show ((l.handed ++ (l.waiting ++ _)).filter _).Pairwise _
    rw [← List.append_assoc, List.filter_append]
    refine List.pairwise_append.2
      ⟨hl.kinds kind, (pairwise_zipIdx es _).filter _, fun x hx y hy => ?_⟩
    exact hnew (List.mem_filter.1 hx).1 (List.mem_filter.1 hy).1

/-- Giving out a part of those that wait keeps a ledger sound. -/
theorem Sound.move {l : Ledger} (hl : l.Sound) {taken left : List (Event × Nat)}
    (h : Split l.waiting taken left) :
    Sound { l with waiting := left, handed := l.handed ++ taken } := by
  refine ⟨?_, hl.ordered.sublist h.sublist, fun kind => ?_⟩
  · rw [List.append_assoc]
    exact (h.perm.append_left l.handed).trans hl.perm
  · rw [List.append_assoc, List.filter_append, h.kinds kind, ← List.filter_append]
    exact hl.kinds kind

theorem Sound.settle {l : Ledger} (hl : l.Sound) (turn : Turn W α β Raw) :
    (l.settle turn).Sound := by
  unfold Ledger.settle
  split
  · exact hl.move (split_filter _ _)
  · unfold takeFirst
    split
    · rename_i x hx
      exact hl.move (split_first hx)
    · exact hl
  · exact hl

theorem sound_ofTurns (turns : List (Turn W α β Raw)) : (ofTurns turns).Sound := by
  have hfold (l : Ledger) (hl : l.Sound) : (turns.foldl follow l).Sound := by
    induction turns generalizing l with
    | nil => exact hl
    | cons turn turns ih => exact ih _ ((hl.arrive _).settle turn)
  exact hfold {} ⟨.refl _, .nil, fun _ => .nil⟩

end Ledger

/-- Whatever a turn takes from the queue, it takes without regard to its kind. -/
def Turn.Unfiltered (turn : Turn W α β Raw) : Prop :=
  ∀ filter, turn.operation = some (.pollEvents filter) ∨
    turn.operation = some (.pollOneEvent filter) → filter = .any

namespace Ledger

/-- What was given out and what waits are in the order in which they arrived. -/
def InOrder (l : Ledger) : Prop := l.handed ++ l.waiting = l.arrived.zipIdx

theorem InOrder.arrive {l : Ledger} (hl : l.InOrder) (es : List Event) : (l.arrive es).InOrder := by
  show l.handed ++ (l.waiting ++ _) = (l.arrived ++ es).zipIdx
  rw [List.zipIdx_append, ← List.append_assoc, hl, Nat.zero_add]

theorem InOrder.settle {l : Ledger} (hl : l.InOrder) {turn : Turn W α β Raw}
    (hturn : turn.Unfiltered) : (l.settle turn).InOrder := by
  unfold Ledger.settle
  split
  · next filter _ hop _ =>
    obtain rfl := hturn filter (.inl hop)
    have htaken : l.waiting.filter (passes .any) = l.waiting :=
      List.filter_eq_self.2 fun _ _ => rfl
    have hleft : l.waiting.filter (! passes .any ·) = [] :=
      List.filter_eq_nil_iff.2 fun _ _ => Bool.false_ne_true
    rw [InOrder, take, htaken, hleft, List.append_nil]
    exact hl
  · next filter _ hop _ =>
    obtain rfl := hturn filter (.inr hop)
    unfold takeFirst
    rcases hwaiting : l.waiting with _ | ⟨x, waiting⟩
    · exact hl
    · show (l.handed ++ [x]) ++ waiting = l.arrived.zipIdx
      rw [List.append_assoc, List.singleton_append, ← hwaiting]
      exact hl
  · exact hl

theorem inOrder_ofTurns {turns : List (Turn W α β Raw)} (h : ∀ turn ∈ turns, turn.Unfiltered) :
    (ofTurns turns).InOrder := by
  have hfold (l : Ledger) (hl : l.InOrder) : (turns.foldl follow l).InOrder := by
    induction turns generalizing l with
    | nil => exact hl
    | cons turn turns ih =>
      obtain ⟨hturn, hturns⟩ := List.forall_mem_cons.1 h
      exact ih hturns _ ((hl.arrive _).settle hturn)
  exact hfold {} rfl

end Ledger

/-! ## Ledgers of courses -/

/-- The events that a turn gives to the host program: those in its answer, or the one that it has
moved into the current slot. -/
def Turn.handed (turn : Turn W α β Raw) : List Event :=
  match turn.operation, turn.answer with
  | some (.pollEvents _), .ok (.events taken) => taken
  | some (.pollOneEvent _), .ok (.flag true) => [turn.slot]
  | _, _ => []

/-- The ledger has the same events waiting as the queue. -/
def Ledger.Agrees (l : Ledger) (q : Event.Queue) : Prop := q.waiting = l.waiting.map (·.1)

namespace Ledger

variable {l : Ledger} {q : Event.Queue}

theorem Agrees.arrive (hl : l.Agrees q) (es : List Event) :
    (l.arrive es).Agrees { q with waiting := q.waiting ++ es } := by
  unfold Agrees Ledger.arrive
  rw [List.map_append, List.zipIdx_map_fst, hl]

theorem Agrees.drain (hl : l.Agrees q) (filter : Event.Kind) :
    (l.take filter).Agrees (q.drain filter).2 ∧
      (q.drain filter).1 = (l.waiting.filter (passes filter)).map (·.1) := by
  unfold Agrees take
  rw [Event.Queue.drain_snd_waiting, Event.Queue.drain_fst, hl, List.filter_map, List.filter_map]
  exact ⟨rfl, rfl⟩

theorem Agrees.consumeOne (hl : l.Agrees q) (filter : Event.Kind) :
    (l.takeFirst filter).Agrees (q.consumeOne filter).2 ∧
      ∃ taken, (l.takeFirst filter).handed = l.handed ++ taken ∧
        (if (q.consumeOne filter).1 then [(q.consumeOne filter).2.current] else []) =
          taken.map (·.1) := by
  unfold Agrees at hl ⊢
  rw [takeFirst, Event.Queue.consumeOne, Event.Queue.consumeOne?_eq, hl, List.find?_map]
  rcases hfind : l.waiting.find? (passes filter) with _ | x
  · rw [show l.waiting.find? (Event.passes filter ∘ (·.1)) = none from hfind]
    exact ⟨hl, [], (List.append_nil _).symm, rfl⟩
  · rw [show l.waiting.find? (Event.passes filter ∘ (·.1)) = some x from hfind]
    exact ⟨List.eraseP_map, [x], rfl, rfl⟩

theorem settle_error {turn : Turn W α β Raw} {e : WindowError} (h : turn.answer = .error e)
    (l : Ledger) : l.settle turn = l := by
  rcases turn with ⟨_ | op, batch, ds, a, slot⟩
  · rfl
  · obtain rfl : a = .error e := h
    cases op <;> rfl

end Ledger

theorem Turn.onEvents_error {turn : Turn W α β Raw} {e : WindowError} (h : turn.answer = .error e)
    (q : Event.Queue) : turn.onEvents q = q := by
  rcases turn with ⟨_ | op, batch, ds, a, slot⟩
  · rfl
  · obtain rfl : a = .error e := h
    rfl

theorem Turn.handed_error {turn : Turn W α β Raw} {e : WindowError} (h : turn.answer = .error e) :
    turn.handed = [] := by
  rcases turn with ⟨_ | op, batch, ds, a, slot⟩
  · rfl
  · obtain rfl : a = .error e := h
    cases op <;> rfl

namespace Window

variable [Scalar α] [Narrowing α β] [Scalar β] {d : Devices W α Raw Frame} {config : Config}
  {world : W} {s s' : Window W α β} {turns : List (Turn W α β Raw)} {turn : Turn W α β Raw}

/-- The ledger follows each turn: it agrees with the queue again, and what it marks as given out is
what the turn has given. -/
theorem Step.follow (h : Step d s turn s') {l : Ledger} (hl : l.Agrees s.events) :
    (l.follow turn).Agrees s'.events ∧
      ∃ taken, (l.follow turn).handed = l.handed ++ taken ∧ turn.handed = taken.map (·.1) := by
  have hjoined := hl.arrive (Delivery.events turn.delivered)
  have hevents := h.events
  have hslot := h.slot
  unfold Ledger.follow
  rcases ha : turn.answer with e | a
  · rw [Ledger.settle_error ha]
    rw [Turn.onEvents_error ha] at hevents
    rw [hevents]
    exact ⟨hjoined, [], (List.append_nil _).symm, Turn.handed_error ha⟩
  · obtain ⟨op, s₂, hop, hs₂, hexec⟩ := h.tail_ok ha
    rcases turn with ⟨_, batch, ds, _, slot⟩
    obtain rfl : _ = some op := hop
    obtain rfl : _ = Except.ok a := ha
    rw [← hs₂] at hjoined hevents
    cases op with
    | pollEvents filter =>
      obtain ⟨hagrees, htaken⟩ := hjoined.drain filter
      rw [Operation.exec_tail_pollEvents] at hexec
      obtain ⟨ha, -⟩ := Prod.mk.inj hexec
      rw [hevents, ← Except.ok.inj ha]
      exact ⟨hagrees, _, rfl, htaken⟩
    | pollOneEvent filter =>
      obtain ⟨hagrees, taken, hhanded, hcurrent⟩ := hjoined.consumeOne filter
      rw [Operation.exec_tail_pollOneEvent] at hexec
      obtain ⟨ha, -⟩ := Prod.mk.inj hexec
      rw [hevents, ← Except.ok.inj ha]
      refine ⟨hagrees, taken, hhanded, ?_⟩
      -- the slot of the turn is read after the event was moved there
      obtain rfl : slot = (s₂.events.consumeOne filter).2.current :=
        hslot.trans (congrArg Event.Queue.current hevents)
      rw [← hcurrent]
      rcases s₂.events.consumeOne filter with ⟨_ | _, q⟩ <;> rfl
    | _ =>
      rw [hevents]
      exact ⟨hjoined, [], (List.append_nil _).symm, rfl⟩

/-! ## Conservation -/

omit [Scalar α] [Narrowing α β] [Scalar β] in
theorem arrived_ofTurns (turns : List (Turn W α β Raw)) :
    (Ledger.ofTurns turns).arrived = Delivery.events (history turns) := by
  have hsettle (l : Ledger) (turn : Turn W α β Raw) : (l.settle turn).arrived = l.arrived := by
    unfold Ledger.settle Ledger.takeFirst
    repeat' split
    all_goals rfl
  have hfold (l : Ledger) : (turns.foldl Ledger.follow l).arrived
      = l.arrived ++ Delivery.events (history turns) := by
    induction turns generalizing l with
    | nil => exact (List.append_nil _).symm
    | cons turn turns ih =>
      rw [List.foldl_cons, ih, Ledger.follow, hsettle]
      simp [Ledger.arrive, history, Delivery.events]
  exact hfold {}

theorem Course.ledger (h : Course d config world turns s) :
    (Ledger.ofTurns turns).Agrees s.events ∧
      turns.flatMap Turn.handed = (Ledger.ofTurns turns).handed.map (·.1) := by
  induction h with
  | @opened ds s₁ s _ hends hprepare =>
    have hevents : s.events = s₁.events :=
      (keeps_prepareForNextFrame d (f := Window.events)
        ⟨fun _ _ => rfl, fun _ _ => rfl⟩).eq hprepare
    rw [hevents, hends.events]
    have hempty : Ledger.Agrees {} (fresh d config world : Window W α β).events := rfl
    exact ⟨hempty.arrive (Delivery.events ds), rfl⟩
  | @next turns s turn s' _ hstep ih =>
    obtain ⟨hagrees, hhanded⟩ := ih
    obtain ⟨hagrees', taken, htaken, hturn⟩ := hstep.follow hagrees
    rw [Ledger.ofTurns_append]
    refine ⟨hagrees', ?_⟩
    rw [htaken, List.map_append, List.flatMap_append, hhanded, ← hturn]
    simp

omit [Scalar α] [Narrowing α β] [Scalar β] in
/-- Only a button that goes down or up makes an event. -/
theorem kind_of_mem_events {ds : List (Delivery α Raw)} {e : Event} (h : e ∈ Delivery.events ds) :
    e.kind = .press ∨ e.kind = .release := by
  obtain ⟨delivery, -, he⟩ := List.mem_filterMap.1 h
  unfold Report.event? at he
  obtain ⟨o, -, ho⟩ := Option.bind_eq_some_iff.1 he
  unfold Occurrence.event? at ho
  split at ho <;> cases ho
  · exact .inl rfl
  · exact .inl rfl
  · exact .inr rfl
  · exact .inr rfl

theorem Course.kind_of_mem_waiting (h : Course d config world turns s) {e : Event}
    (he : e ∈ s.events.waiting) : e.kind = .press ∨ e.kind = .release := by
  rw [h.ledger.1] at he
  obtain ⟨x, hx, rfl⟩ := List.mem_map.1 he
  have harrived := (Ledger.sound_ofTurns turns).perm.mem_iff.1 (List.mem_append_right _ hx)
  have hmem : x.1 ∈ (Ledger.ofTurns turns).arrived := List.fst_mem_of_mem_zipIdx harrived
  rw [arrived_ofTurns] at hmem
  exact kind_of_mem_events hmem

/-- Taking all events of a filter leaves the others, new ones among them. -/
theorem Step.waiting_of_pollEvents (h : Step d s turn s') {filter : Event.Kind}
    (hop : turn.operation = some (.pollEvents filter)) (ha : turn.answer.isOk = true) :
    s'.events.waiting =
      (s.events.waiting ++ Delivery.events turn.delivered).filter (! Event.passes filter ·) := by
  have hevents := h.events
  rcases turn with ⟨_, batch, ds, _ | a, slot⟩
  · cases ha
  · obtain rfl : _ = some (Operation.pollEvents filter) := hop
    rw [hevents]
    exact Event.Queue.drain_snd_waiting _ filter

/-- Taking the presses and then the releases leaves nothing, unless more has come meanwhile. -/
theorem Course.drained (h : Course d config world turns s) {press release : Turn W α β Raw}
    {s₁ s₂ : Window W α β} (h₁ : Step d s press s₁) (h₂ : Step d s₁ release s₂)
    (hpress : press.operation = some (.pollEvents .press)) (hpress' : press.answer.isOk = true)
    (hrelease : release.operation = some (.pollEvents .release))
    (hrelease' : release.answer.isOk = true) (hnew : Delivery.events release.delivered = []) :
    s₂.events.waiting = [] := by
  have hwaiting₁ := h₁.waiting_of_pollEvents hpress hpress'
  have hwaiting₂ := h₂.waiting_of_pollEvents hrelease hrelease'
  rw [hnew, List.append_nil] at hwaiting₂
  refine List.eq_nil_iff_forall_not_mem.2 fun e he => ?_
  have hkind := ((h.next h₁).next h₂).kind_of_mem_waiting he
  rw [hwaiting₂, hwaiting₁] at he
  obtain ⟨he, hnotRelease⟩ := List.mem_filter.1 he
  obtain ⟨-, hnotPress⟩ := List.mem_filter.1 he
  rcases hkind with hkind | hkind
  · simp [Event.passes, Event.Kind.passes, hkind] at hnotPress
  · simp [Event.passes, Event.Kind.passes, hkind] at hnotRelease

/-- If everything is taken without regard to its kind, what was given out and what waits are all
button events in the order of their delivery. -/
theorem Course.handed_append_waiting (h : Course d config world turns s)
    (hturns : ∀ turn ∈ turns, turn.Unfiltered) :
    turns.flatMap Turn.handed ++ s.events.waiting = Delivery.events (history turns) := by
  obtain ⟨hwaiting, hhanded⟩ := h.ledger
  rw [hhanded, hwaiting, ← List.map_append, Ledger.inOrder_ofTurns hturns, List.zipIdx_map_fst,
    arrived_ofTurns]

/-- At every point of a course, the button events that have arrived are the ones that were given to
the host program together with the ones that wait, each once. Those that wait are in the order of
their arrival, and so within each kind are those that were given out. An operation that fails gives
out nothing and leaves the current slot. Every event that waits is a press or a release, and so
nothing waits after both kinds were taken. -/
theorem events_conserved (h : Course d config world turns s) :
    (Ledger.ofTurns turns).arrived = Delivery.events (history turns) ∧
      s.events.waiting = (Ledger.ofTurns turns).waiting.map (·.1) ∧
      turns.flatMap Turn.handed = (Ledger.ofTurns turns).handed.map (·.1) ∧
      (Ledger.ofTurns turns).Sound ∧
      (∀ kind : Event.Kind, ((Ledger.ofTurns turns).handed.filter fun x =>
        x.1.kind = kind).Pairwise (·.2 < ·.2)) ∧
      (∀ e ∈ s.events.waiting, e.kind = .press ∨ e.kind = .release) ∧
      (∀ turn s', Step d s turn s' → turn.answer.isOk = false →
        turn.handed = [] ∧ s'.events.current = s.events.current) ∧
      ∀ press release s₁ s₂, Step d s press s₁ → Step d s₁ release s₂ →
        press.operation = some (.pollEvents .press) → press.answer.isOk = true →
        release.operation = some (.pollEvents .release) → release.answer.isOk = true →
        Delivery.events release.delivered = [] → s₂.events.waiting = [] := by
  have hsound := Ledger.sound_ofTurns turns
  refine ⟨arrived_ofTurns turns, h.ledger.1, h.ledger.2, hsound, fun kind => ?_,
    fun e => h.kind_of_mem_waiting, fun turn s' hstep hanswer => ?_,
    fun press release s₁ s₂ h₁ h₂ => h.drained h₁ h₂⟩
  · have hkind := hsound.kinds kind
    rw [List.filter_append] at hkind
    exact (List.pairwise_append.1 hkind).1
  · rcases ha : turn.answer with e | a
    · refine ⟨Turn.handed_error ha, ?_⟩
      rw [hstep.events, Turn.onEvents_error ha]
    · rw [ha] at hanswer
      cases hanswer

theorem events_conserved_nested :
    ∃ turns s', Course Script.devices {} nestedStage turns s' ∧
      s'.events.waiting = [⟨.press, "A"⟩, ⟨.press, "LMB"⟩, ⟨.release, "A"⟩] ∧
      s'.events.waiting = (Ledger.ofTurns turns).waiting.map (·.1) ∧
      turns.flatMap Turn.handed = (Ledger.ofTurns turns).handed.map (·.1) ∧
      (Ledger.ofTurns turns).Sound := by
  have hopen : openWith Script.devices {} nestedStage = (.ok (), nestedWindow) := rfl
  have hlead : exec (Operation.lead Script.devices (.pollOneEvent .release)) nestedWindow
      = (.ok (), nestedWindow) := rfl
  rcases hpump : exec (pump Script.devices) nestedWindow with ⟨e | ⟨⟩, s₂⟩
  · have hok : (exec (pump Script.devices) nestedWindow).1.isOk = true := by decide +kernel
    rw [hpump] at hok
    cases hok
  · have hexec : exec (Operation.perform Script.devices (.pollOneEvent .release)) nestedWindow
        = (Except.mapError .failed (.ok (.flag (s₂.events.consumeOne .release).1)),
          { s₂ with events := (s₂.events.consumeOne .release).2 }) := by
      rw [Operation.perform_pumps _ rfl, exec_bind_of_ok hlead, exec_bind_of_ok hpump,
        Operation.exec_tail_pollOneEvent]
      rfl
    obtain ⟨turns, hturns⟩ := (Reached.next _ _ (.opened hopen) hexec).course
    obtain ⟨-, hwaiting, hhanded, hsound, -⟩ := events_conserved hturns
    refine ⟨turns, _, hturns, ?_, hwaiting, hhanded, hsound⟩
    have hdecide : ((exec (pump Script.devices) nestedWindow).2.events.consumeOne
        .release).2.waiting = [⟨.press, "A"⟩, ⟨.press, "LMB"⟩, ⟨.release, "A"⟩] := by
      decide +kernel
    rw [hpump] at hdecide
    exact hdecide

end Window

end WindowHost
