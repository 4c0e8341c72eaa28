import WindowHost.Proofs.Naming

/-!
# What listeners hear

Listeners join for keys or for mouse buttons, and buttons are reported from either source, whatever
they are (`Input.Act`). All reports go into one set of buttons that are down, and each listener is
told of those that come from its source after it has joined. `told_in_turn` says what a new input
comes to through any history, and what happens within one report.
-/

namespace WindowHost.Input

variable {α β ι : Type}

/-! ## Acts -/

/-- Where a report of a button comes from, and what a listener listens to. -/
inductive Source where
  | key | mouse
  deriving DecidableEq

/-- What happens to an input. -/
inductive Act (ι : Type) where
  | join (source : Source) (listener : ι)
  | report (source : Source) (b : Button) (action : Action)

def listeners (i : Input α β ι) : Source → List ι
  | .key => i.keyListeners
  | .mouse => i.mouseListeners

def join (i : Input α β ι) (listener : ι) : Source → Input α β ι
  | .key => i.addKeyListener listener
  | .mouse => i.addMouseListener listener

def report (i : Input α β ι) (b : Button) (action : Action) :
    Source → Input α β ι × List (Notice ι)
  | .key => i.key b action
  | .mouse => i.mouse b action

namespace Act

def perform (i : Input α β ι) : Act ι → Input α β ι × List (Notice ι)
  | .join source listener => (i.join listener source, [])
  | .report source b action => i.report b action source

/-- The listener that joins for the source. -/
def joins? (source : Source) : Act ι → Option ι
  | .join source' listener => if source' = source then some listener else none
  | .report .. => none

/-- The listener that joins. -/
def newcomer? : Act ι → Option ι
  | .join _ listener => some listener
  | .report .. => none

def actionOn? (b : Button) : Act ι → Option Action
  | .join .. => none
  | .report _ c action => if c = b then some action else none

/-- What a listener for the source is to hear of the act. -/
def notice? (source : Source) (listener : ι) : Act ι → Option (Notice ι)
  | .join .. => none
  | .report source' b action => if source' = source then some ⟨listener, b, action⟩ else none

/-- What a listener hears of the act that has these places among the listeners. -/
def heard (places : Source → List ι) : Act ι → List (Notice ι)
  | .join .. => []
  | .report source b action => notices (places source) b action

end Act

/-- An input after some acts, and what the listeners were told in the meantime. -/
def run (i : Input α β ι) : List (Act ι) → Input α β ι × List (Notice ι)
  | [] => (i, [])
  | act :: acts =>
    let (i', told) := act.perform i
    ((run i' acts).1, told ++ (run i' acts).2)

theorem run_cons (i : Input α β ι) (act : Act ι) (acts : List (Act ι)) :
    i.run (act :: acts) =
      (((act.perform i).1.run acts).1, (act.perform i).2 ++ ((act.perform i).1.run acts).2) := rfl

theorem run_append (i : Input α β ι) (acts acts' : List (Act ι)) :
    i.run (acts ++ acts') =
      (((i.run acts).1.run acts').1, (i.run acts).2 ++ ((i.run acts).1.run acts').2) := by
  induction acts generalizing i with
  | nil => rfl
  | cons act acts ih => rw [List.cons_append, run_cons, ih, run_cons, List.append_assoc]

/-! ## One report -/

theorem report_eq (i : Input α β ι) (b : Button) (action : Action) (source : Source) :
    i.report b action source = (i.record b action, notices (i.listeners source) b action) := by
  cases source with
  | key => exact key_eq i b action
  | mouse => exact mouse_eq i b action

/-- Within a report the listeners are told one after the other, each with the input in which the
button is recorded already, whatever it does to be told. -/
theorem transition_eq {m : Type → Type} [Monad m] (tell : Input α β ι → Notice ι → m Unit)
    (listeners : List ι) (b : Button) (action : Action) (i : Input α β ι) :
    i.transition tell listeners b action = (do
      (notices listeners b action).forM (tell (i.record b action))
      pure (i.record b action)) := by
  have hforM : (notices listeners b action).forM (tell (i.record b action)) =
      listeners.forM fun listener => tell (i.record b action) ⟨listener, b, action⟩ := by
    induction listeners with
    | nil => rfl
    | cons listener listeners ih => exact congrArg (tell _ _ >>= fun _ => ·) ih
  rw [hforM]
  rfl

/-- A report that is repeated changes nothing. -/
theorem record_record (i : Input α β ι) (b : Button) (action : Action) :
    (i.record b action).record b action = i.record b action := by
  unfold record
  rcases action.leavesDown with _ | _
  · simp
  · simp

/-! ## Buttons -/

theorem isPressed_perform (i : Input α β ι) (act : Act ι) (b : Button) :
    (act.perform i).1.isPressed b = downAfter (i.isPressed b) (act.actionOn? b).toList := by
  cases act with
  | join source listener => cases source <;> rfl
  | report source c action =>
    rw [Act.perform, report_eq, isPressed_record, Act.actionOn?]
    by_cases hc : c = b <;> simp [hc, downAfter]

/-- Whether a button is down follows from the actions that were reported of it. -/
theorem isPressed_run (i : Input α β ι) (acts : List (Act ι)) (b : Button) :
    (i.run acts).1.isPressed b =
      downAfter (i.isPressed b) (acts.filterMap (Act.actionOn? b)) := by
  induction acts generalizing i with
  | nil => rfl
  | cons act acts ih =>
    rw [run_cons, ih, isPressed_perform, ← downAfter_append, List.filterMap_cons]
    rcases act.actionOn? b with _ | action <;> rfl

/-! ## Listeners -/

theorem listeners_perform (i : Input α β ι) (act : Act ι) (source : Source) :
    (act.perform i).1.listeners source = i.listeners source ++ (act.joins? source).toList := by
  cases act with
  | join source' listener =>
    cases source <;> cases source' <;>
      simp [Act.perform, join, listeners, Act.joins?, addKeyListener, addMouseListener]
  | report source' b action =>
    rw [Act.perform, report_eq]
    cases source <;> simp [listeners, record, Act.joins?]

/-- The listeners are those that have joined, in their order. -/
theorem listeners_run (i : Input α β ι) (acts : List (Act ι)) (source : Source) :
    (i.run acts).1.listeners source = i.listeners source ++ acts.filterMap (Act.joins? source) := by
  induction acts generalizing i with
  | nil => exact (List.append_nil _).symm
  | cons act acts ih =>
    rw [run_cons, ih, listeners_perform, List.append_assoc, List.filterMap_cons]
    rcases act.joins? source with _ | listener <;> rfl

section Told

variable [DecidableEq ι] {listener : ι}

/-- What a report tells a listener follows from its places among the listeners. -/
theorem filter_report (i : Input α β ι) (b : Button) (action : Action) (source : Source) :
    (i.report b action source).2.filter (·.listener = listener) =
      notices ((i.listeners source).filter (· = listener)) b action := by
  rw [report_eq]
  exact List.filter_map

omit [DecidableEq ι] in
theorem newcomer?_of_joins? {act : Act ι} {source : Source}
    (h : act.joins? source = some listener) : act.newcomer? = some listener := by
  cases act with
  | join source' other =>
    obtain ⟨-, rfl⟩ : source' = source ∧ other = listener := by simpa [Act.joins?] using h
    rfl
  | report => cases h

/-- As long as a listener does not join, its places among the listeners stay. -/
theorem filter_listeners_perform {act : Act ι} (h : act.newcomer? ≠ some listener)
    (i : Input α β ι) (source : Source) :
    ((act.perform i).1.listeners source).filter (· = listener) =
      (i.listeners source).filter (· = listener) := by
  rw [listeners_perform, List.filter_append]
  rcases hjoin : act.joins? source with _ | other
  · rw [Option.toList_none, List.filter_nil, List.append_nil]
  · have hother : other ≠ listener := fun heq => h (heq ▸ newcomer?_of_joins? hjoin)
    simp [hother]

theorem filter_listeners_run {acts : List (Act ι)}
    (hacts : ∀ act ∈ acts, act.newcomer? ≠ some listener) (i : Input α β ι) (source : Source) :
    ((i.run acts).1.listeners source).filter (· = listener) =
      (i.listeners source).filter (· = listener) := by
  induction acts generalizing i with
  | nil => rfl
  | cons act acts ih =>
    obtain ⟨hact, hrest⟩ := List.forall_mem_cons.1 hacts
    rw [run_cons, ih hrest, filter_listeners_perform hact]

/-- As long as a listener does not join, its places tell what it hears. -/
theorem filter_told {acts : List (Act ι)} (hacts : ∀ act ∈ acts, act.newcomer? ≠ some listener)
    {i : Input α β ι} {places : Source → List ι}
    (hi : ∀ source, (i.listeners source).filter (· = listener) = places source) :
    (i.run acts).2.filter (·.listener = listener) = acts.flatMap (Act.heard places) := by
  induction acts generalizing i with
  | nil => rfl
  | cons act acts ih =>
    obtain ⟨hact, hrest⟩ := List.forall_mem_cons.1 hacts
    have hnow : (act.perform i).2.filter (·.listener = listener) = act.heard places := by
      cases act with
      | join => rfl
      | report source b action => exact (filter_report i b action source).trans (by rw [hi]; rfl)
    rw [run_cons, List.filter_append, hnow, List.flatMap_cons]
    exact congrArg _ (ih hrest fun source =>
      (filter_listeners_perform hact i source).trans (hi source))

/-- A listener hears the reports from its source that come after it has joined. -/
theorem filter_told_join {before later : List (Act ι)} {source : Source}
    (hfresh : ∀ act ∈ before ++ later, act.newcomer? ≠ some listener) {i : Input α β ι}
    (hi : ∀ source, (i.listeners source).filter (· = listener) = []) :
    (i.run (before ++ .join source listener :: later)).2.filter (·.listener = listener) =
      later.filterMap (Act.notice? source listener) := by
  obtain ⟨hbefore, hlater⟩ := List.forall_mem_append.1 hfresh
  have hnothing : before.flatMap (Act.heard fun _ => ([] : List ι)) = [] :=
    List.flatMap_eq_nil_iff.2 fun act _ => by cases act <;> rfl
  have hplaces (source' : Source) :
      (((i.run before).1.join listener source).listeners source').filter (· = listener) =
        if source' = source then [listener] else [] := by
    refine (congrArg (List.filter (· = listener))
      (listeners_perform (i.run before).1 (.join source listener) source')).trans ?_
    rw [List.filter_append, filter_listeners_run hbefore, hi, List.nil_append]
    by_cases hsource : source' = source
    · simp [Act.joins?, hsource]
    · simp [Act.joins?, hsource, Ne.symm hsource]
  rw [run_append, List.filter_append, filter_told hbefore hi, hnothing, List.nil_append, run_cons]
  refine (filter_told hlater hplaces).trans ?_
  rw [List.filterMap_eq_flatMap_toList]
  refine congrArg (List.flatMap · later) (funext fun act => ?_)
  cases act with
  | join => rfl
  | report source' b action =>
    by_cases hsource : source' = source <;> simp [Act.heard, Act.notice?, hsource, notices]

end Told

/-- Through any history of a new input, a button is down exactly if the last action that was
reported of it, from either source, was a press or a repetition; so a report that is repeated
changes nothing. A listener hears exactly the reports from its own source after it has joined, each
once and in their order. Within one report the buttons that are down change first, and then all
listeners of the source are told in the order in which they have joined, whatever each does with the
input it is shown. -/
theorem told_in_turn [Scalar α] [Scalar β] [DecidableEq ι] :
    (∀ (acts : List (Act ι)) b, ((empty : Input α β ι).run acts).1.isPressed b = true ↔
        (acts.filterMap (Act.actionOn? b)).getLast? = some .press ∨
          (acts.filterMap (Act.actionOn? b)).getLast? = some .autoRepeat) ∧
      (∀ (i : Input α β ι) b action source source',
        ((i.report b action source).1.report b action source').1 =
          (i.report b action source).1) ∧
      (∀ before source listener later,
        (∀ act ∈ before ++ later, act.newcomer? ≠ some listener) →
          ((empty : Input α β ι).run (before ++ .join source listener :: later)).2.filter
              (·.listener = listener) = later.filterMap (Act.notice? source listener)) ∧
      ∀ (acts : List (Act ι)) source b action,
        let (i, told) := (empty : Input α β ι).run acts
        let heard := notices (acts.filterMap (Act.joins? source)) b action
        (empty : Input α β ι).run (acts ++ [.report source b action]) =
            (i.record b action, told ++ heard) ∧
          (∀ c, (i.record b action).isPressed c =
            if b = c then action.leavesDown else i.isPressed c) ∧
          ∀ (m : Type → Type) [Monad m] (tell : Input α β ι → Notice ι → m Unit),
            i.transition tell (i.listeners source) b action =
              (do heard.forM (tell (i.record b action)); pure (i.record b action)) := by
  refine ⟨fun acts b => ?_, fun i b action source source' => ?_,
    fun before source listener later hfresh => filter_told_join hfresh fun source => ?_,
    fun acts source b action => ?_⟩
  · rw [isPressed_run]
    exact downAfter_false_iff _
  · rw [report_eq, report_eq, record_record]
  · cases source <;> rfl
  · have hnone : (empty : Input α β ι).listeners source = [] := by cases source <;> rfl
    have hjoined := listeners_run (empty : Input α β ι) acts source
    rw [hnone, List.nil_append] at hjoined
    refine ⟨?_, fun c => isPressed_record _ b c action, fun m _ tell => ?_⟩
    · rw [run_append, run_cons, run, Act.perform, report_eq, hjoined, List.append_nil]
    · rw [← hjoined]
      exact transition_eq tell _ b action _

/-- The acts before a second listener for keys joins, and after that. -/
def firstActs : List (Act String) :=
  [.join .key "first", .report .key (.key .keyW) .press, .join .mouse "third"]

def secondActs : List (Act String) :=
  [.report .mouse (.key .keyW) .autoRepeat, .report .key (.key .keyA) .release,
    .report .key (.mouse .left) .press]

/-- The second listener hears a key come up that was never down, and a mouse button that is reported
as a key; it hears neither what was before it joined nor what comes from the mouse. -/
theorem told_in_turn_second :
    let heard := ((empty : Input Rat Rat String).run
      (firstActs ++ .join .key "second" :: secondActs))
    heard.2.filter (·.listener = "second") =
        [⟨"second", .key .keyA, .release⟩, ⟨"second", .mouse .left, .press⟩] ∧
      heard.1.isPressed (.key .keyW) = true := by
  obtain ⟨hpressed, -, hheard, -⟩ := @told_in_turn Rat Rat String _ _ _
  exact ⟨hheard firstActs .key "second" secondActs (by decide),
    (hpressed _ (.key .keyW)).2 (.inr (by decide))⟩

end WindowHost.Input
