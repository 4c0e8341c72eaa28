import WindowHost.Proofs.Ledger

/-!
# Order of arrival and order of delivery

A platform gives out the reports of a batch, and later, while a new size is settled, further ones.
`numbered` gives each report the number of its arrival and lists them as they are delivered. The two
orders agree on a class of reports unless a change of size `overtakes`: it defers a report of the
class while another one of its own batch has still to be delivered.
-/

namespace WindowHost

variable {W α β Raw Frame : Type}

/-! ## Work lists -/

/-- Deliveries work off a list: each takes the first report and puts in its place what it has
deferred, until nothing is left. -/
inductive Works : List (Report α Raw) → List (Delivery α Raw) → Prop where
  | nil : Works [] []
  | cons {x rs ds} : Works (x.deferred ++ rs) ds → Works (x.report :: rs) (x :: ds)

theorem Works.cons_inv {r : Report α Raw} {rs : List (Report α Raw)}
    {ds : List (Delivery α Raw)} (h : Works (r :: rs) ds) :
    ∃ x ds', ds = x :: ds' ∧ x.report = r ∧ Works (x.deferred ++ rs) ds' := by
  cases h with
  | cons hrest => exact ⟨_, _, rfl, rfl, hrest⟩

theorem Flatten.works_append {rs rest : List (Report α Raw)} {ds more : List (Delivery α Raw)}
    (h : Flatten rs ds) (hrest : Works rest more) : Works (rs ++ rest) (ds ++ more) := by
  induction h generalizing rest more with
  | nil => exact hrest
  | @plain r rs ds _ _ ih => exact .cons (x := .plain r) (ih hrest)
  | @resized r g rs inner outer _ _ _ ihInner ihOuter =>
    have hinner := ihInner (ihOuter hrest)
    rw [← List.append_assoc inner] at hinner
    exact .cons (x := .resized r g) hinner

theorem Flatten.works {rs : List (Report α Raw)} {ds : List (Delivery α Raw)}
    (h : Flatten rs ds) : Works rs ds := by
  have hworks := h.works_append .nil
  rwa [List.append_nil, List.append_nil] at hworks

/-- The reports of a work list with the numbers of their arrival, in the order of delivery. What a
delivery has deferred gets the next numbers. -/
def unroll (next : Nat) :
    List (Report α Raw × Nat) → List (Delivery α Raw) → List (Report α Raw × Nat)
  | x :: todo, delivery :: ds =>
    x :: unroll (next + delivery.deferred.length) (delivery.deferred.zipIdx next ++ todo) ds
  | _, _ => []

/-- Whether some change of size defers a report of the class `q` while another one is pending. -/
def overtakes (q : Report α Raw → Bool) : List (Report α Raw) → List (Delivery α Raw) → Bool
  | _ :: rs, delivery :: ds =>
    (delivery.deferred.any q && rs.any q) || overtakes q (delivery.deferred ++ rs) ds
  | _, _ => false

section Works

variable {rs : List (Report α Raw)} {ds : List (Delivery α Raw)} {xs : List (Report α Raw × Nat)}
  {q : Report α Raw → Bool}

theorem unroll_cons (next : Nat) (x : Report α Raw × Nat) (xs : List (Report α Raw × Nat))
    (delivery : Delivery α Raw) (ds : List (Delivery α Raw)) :
    unroll next (x :: xs) (delivery :: ds) =
      x :: unroll (next + delivery.deferred.length)
        (delivery.deferred.zipIdx next ++ xs) ds := rfl

/-- A numbered work list without its numbers, after the first report was taken. -/
theorem map_fst_deferred {xs : List (Report α Raw × Nat)} {rs : List (Report α Raw)}
    (hxs : xs.map (·.1) = rs) (next : Nat) (deferred : List (Report α Raw)) :
    (deferred.zipIdx next ++ xs).map (·.1) = deferred ++ rs := by
  rw [List.map_append, List.zipIdx_map_fst, hxs]

theorem map_fst_unroll (h : Works rs ds) {next : Nat} (hxs : xs.map (·.1) = rs) :
    (unroll next xs ds).map (·.1) = ds.map Delivery.report := by
  induction h generalizing next xs with
  | nil =>
    obtain rfl := List.map_eq_nil_iff.1 hxs
    rfl
  | @cons delivery rs ds _ ih =>
    obtain ⟨x, xs, rfl, hx, hxs⟩ := List.map_eq_cons_iff.1 hxs
    rw [unroll_cons, List.map_cons, List.map_cons, ih (map_fst_deferred hxs next _), hx]

/-- Every report is delivered once, those that were deferred on the way among them. -/
theorem perm_unroll (h : Works rs ds) {next : Nat} (hxs : xs.map (·.1) = rs) :
    (unroll next xs ds).Perm (xs ++ (ds.flatMap Delivery.deferred).zipIdx next) := by
  induction h generalizing next xs with
  | nil =>
    obtain rfl := List.map_eq_nil_iff.1 hxs
    exact .refl _
  | @cons delivery rs ds _ ih =>
    obtain ⟨x, xs, rfl, -, hxs⟩ := List.map_eq_cons_iff.1 hxs
    rw [unroll_cons, List.flatMap_cons, List.zipIdx_append, List.cons_append]
    refine .cons x ((ih (map_fst_deferred hxs next _)).trans ?_)
    rw [List.append_assoc]
    exact List.perm_append_comm_assoc _ _ _

/-- What is pending is delivered in its order. -/
theorem sublist_unroll (h : Works rs ds) {next : Nat} (hxs : xs.map (·.1) = rs) :
    xs.Sublist (unroll next xs ds) := by
  induction h generalizing next xs with
  | nil =>
    obtain rfl := List.map_eq_nil_iff.1 hxs
    exact .refl _
  | @cons delivery rs ds _ ih =>
    obtain ⟨x, xs, rfl, -, hxs⟩ := List.map_eq_cons_iff.1 hxs
    rw [unroll_cons]
    exact (List.Sublist.cons_cons x
      ((List.sublist_append_right _ _).trans (ih (map_fst_deferred hxs next _))))

/-- What was deferred arrived after what is pending, so that the two together are only in order if
one of them has no report of the class. -/
theorem pairwise_deferred_iff (deferred : List (Report α Raw)) {next : Nat}
    (hlt : ∀ x ∈ xs, x.2 < next) (hord : (xs.filter (q ·.1)).Pairwise (·.2 < ·.2)) :
    ((deferred.zipIdx next ++ xs).filter (q ·.1)).Pairwise (·.2 < ·.2) ↔
      (deferred.any q && (xs.map (·.1)).any q) = false := by
  rw [List.filter_append, List.pairwise_append, Bool.and_eq_false_iff]
  constructor
  · rintro ⟨-, -, hcross⟩
    rcases hdeferred : deferred.any q with _ | _
    · exact .inl rfl
    rcases hpending : (xs.map (·.1)).any q with _ | _
    · exact .inr hpending
    -- one of each is out of order
    obtain ⟨_, hr, hqx⟩ := List.any_eq_true.1 hdeferred
    rw [← List.zipIdx_map_fst next deferred] at hr
    obtain ⟨x, hx, rfl⟩ := List.mem_map.1 hr
    obtain ⟨_, hr, hqy⟩ := List.any_eq_true.1 hpending
    obtain ⟨y, hy, rfl⟩ := List.mem_map.1 hr
    have hlate := List.le_snd_of_mem_zipIdx hx
    have hearly := hlt y hy
    have hcross := hcross x (List.mem_filter.2 ⟨hx, hqx⟩) y (List.mem_filter.2 ⟨hy, hqy⟩)
    omega
  · intro hnone
    refine ⟨(pairwise_zipIdx deferred next).filter _, hord, fun x hx y hy => ?_⟩
    obtain ⟨hx, hqx⟩ := List.mem_filter.1 hx
    obtain ⟨hy, hqy⟩ := List.mem_filter.1 hy
    rcases hnone with hnone | hnone
    · exact absurd hqx (List.any_eq_false.1 hnone x.1 (List.fst_mem_of_mem_zipIdx hx))
    · exact absurd hqy (List.any_eq_false.1 hnone y.1 (List.mem_map_of_mem hy))

/-- The numbers of arrival of a class of reports increase in the order of delivery exactly if no
change of size overtakes in that class. -/
theorem pairwise_unroll_iff (h : Works rs ds) {next : Nat} (hxs : xs.map (·.1) = rs)
    (hlt : ∀ x ∈ xs, x.2 < next) (hord : (xs.filter (q ·.1)).Pairwise (·.2 < ·.2)) :
    ((unroll next xs ds).filter (q ·.1)).Pairwise (·.2 < ·.2) ↔ overtakes q rs ds = false := by
  induction h generalizing next xs with
  | nil =>
    obtain rfl := List.map_eq_nil_iff.1 hxs
    exact ⟨fun _ => rfl, fun _ => .nil⟩
  | @cons delivery rs ds hworks ih =>
    obtain ⟨x, xs, rfl, hx, hxs⟩ := List.map_eq_cons_iff.1 hxs
    have hxs' := map_fst_deferred hxs next delivery.deferred
    have hlt' : ∀ y ∈ delivery.deferred.zipIdx next ++ xs,
        y.2 < next + delivery.deferred.length := by
      intro y hy
      rcases List.mem_append.1 hy with hy | hy
      · have hnew := List.snd_lt_of_mem_zipIdx hy
        omega
      · have hold := hlt y (List.mem_cons_of_mem _ hy)
        omega
    have hord' : (xs.filter (q ·.1)).Pairwise (·.2 < ·.2) :=
      hord.sublist ((List.sublist_cons_self x xs).filter _)
    have hhead := pairwise_deferred_iff delivery.deferred
      (fun y hy => hlt y (List.mem_cons_of_mem _ hy)) hord'
    rw [hxs] at hhead
    rw [unroll_cons, overtakes, Bool.or_eq_false_iff, ← hhead]
    constructor
    · intro hall
      have htail := hall.sublist ((List.sublist_cons_self x _).filter _)
      -- the next work list is a part of what is delivered, so it is in order, as `ih` needs it
      have hfirst := htail.sublist ((sublist_unroll hworks hxs').filter _)
      exact ⟨hfirst, (ih hxs' hlt' hfirst).1 htail⟩
    · rintro ⟨hfirst, hrest⟩
      have htail := (ih hxs' hlt' hfirst).2 hrest
      rcases hqx : q x.1 with _ | _
      · rw [List.filter_cons_of_neg (by simp [hqx])]
        exact htail
      · rw [List.filter_cons_of_pos (by simp [hqx])] at hord ⊢
        refine .cons (fun y hy => ?_) htail
        obtain ⟨hy, hqy⟩ := List.mem_filter.1 hy
        have hbefore := hlt x List.mem_cons_self
        rcases List.mem_append.1 ((perm_unroll hworks hxs').mem_iff.1 hy) with hy | hy
        · rcases List.mem_append.1 hy with hy | hy
          · have hlate := List.le_snd_of_mem_zipIdx hy
            omega
          · exact (List.pairwise_cons.1 hord).1 y (List.mem_filter.2 ⟨hy, hqy⟩)
        · have hlate := List.le_snd_of_mem_zipIdx hy
          omega

end Works

/-! ## Uniqueness -/

/-- A usable size is reached in only one way. -/
theorem Waits.unique {p : Platform W α Raw} {w w₁ w₂ : W} {g g' : Settling α Raw}
    (h : Waits p w g w₁) (h' : Waits p w g' w₂) (hg : g.size.isEmpty = false)
    (hg' : g'.size.isEmpty = false) : g = g' ∧ w₁ = w₂ := by
  induction h generalizing g' w₂ with
  | @last w w₁ size hread =>
    cases h' with
    | last hread' =>
      obtain ⟨rfl, rfl⟩ := Prod.mk.inj (hread.symm.trans hread')
      exact ⟨rfl, rfl⟩
    | again hread' hempty =>
      obtain ⟨rfl, rfl⟩ := Prod.mk.inj (hread.symm.trans hread')
      exact absurd (hempty.symm.trans hg) (by decide)
  | @again w w₁ w₂ w₃ size batch g hread hempty hwait _ ih =>
    cases h' with
    | last hread' =>
      obtain ⟨rfl, rfl⟩ := Prod.mk.inj (hread.symm.trans hread')
      exact absurd (hempty.symm.trans hg') (by decide)
    | again hread' _ hwait' hrest' =>
      obtain ⟨rfl, rfl⟩ := Prod.mk.inj (hread.symm.trans hread')
      obtain ⟨rfl, rfl⟩ := Prod.mk.inj (hwait.symm.trans hwait')
      obtain ⟨rfl, rfl⟩ := ih hrest' hg hg'
      exact ⟨rfl, rfl⟩

/-- A work list is delivered in only one way. -/
theorem Window.Path.unique [Scalar α] [Narrowing α β] {d : Devices W α Raw Frame} {size : Extent}
    {s s₁ s₂ : Window W α β} {rs : List (Report α Raw)} {ds ds' : List (Delivery α Raw)}
    (hworks : Works rs ds) (hworks' : Works rs ds') (h : Path d size s ds s₁)
    (h' : Path d size s ds' s₂) : ds = ds' ∧ s₁ = s₂ := by
  induction hworks generalizing size s ds' with
  | nil =>
    cases hworks'
    cases h
    cases h'
    exact ⟨rfl, rfl⟩
  | @cons x rs ds _ ih =>
    obtain ⟨y, ds', rfl, hxy, hrest'⟩ := hworks'.cons_inv
    cases h with
    | plain hr hrest =>
      cases h' with
      | plain _ hrest'' =>
        obtain rfl : _ = _ := hxy
        obtain ⟨rfl, rfl⟩ := ih hrest' hrest hrest''
        exact ⟨rfl, rfl⟩
      | resized hr' =>
        obtain rfl : _ = _ := hxy
        exact absurd (hr'.symm.trans hr) (by decide)
    | resized hr hw hg hd hrest =>
      cases h' with
      | plain hr' =>
        obtain rfl : _ = _ := hxy
        exact absurd (hr'.symm.trans hr) (by decide)
      | resized _ hw' hg' hd' hrest'' =>
        obtain rfl : _ = _ := hxy
        obtain ⟨rfl, rfl⟩ := hw.unique hw' hg hg'
        obtain ⟨-, rfl⟩ := Prod.mk.inj (hd.symm.trans hd')
        obtain ⟨rfl, rfl⟩ := ih hrest' hrest hrest''
        exact ⟨rfl, rfl⟩

section Settled

variable [Scalar α] [Narrowing α β] {d : Devices W α Raw Frame}
  {s s' : Window W α β} {ds : List (Delivery α Raw)}

/-- A pump that succeeds delivers its batch in that one way. -/
theorem Window.exec_pump_of_path (hs : s.Wired)
    (hok : (exec (pump d) s).1.isOk = true) (hflat : Flatten (d.platform.poll s.world).1 ds)
    (hpath : Path d s.config.size (s.inWorld (d.platform.poll s.world).2) ds s') :
    exec (pump d) s = (.ok (), s') := by
  obtain ⟨ds', hends⟩ := exec_pump_ends d s hs
  obtain ⟨⟨⟩, hpump⟩ := exists_eq_ok hok
  rw [hpump] at hends
  obtain ⟨hflat', hpath'⟩ := hends.of_ok
  obtain ⟨-, hs'⟩ := hpath'.unique hflat'.works hflat.works hpath
  rw [hpump, hs']

variable [Scalar β]

/-- A poll that succeeds takes its events from the queue after the new ones have joined. -/
theorem Window.step_pollEvents {filter : Event.Kind} (hs : s.Wired)
    (hshow : s.config.showWindow = true) (hok : (exec (pump d) s).1.isOk = true)
    (hflat : Flatten (d.platform.poll s.world).1 ds)
    (hpath : Path d s.config.size (s.inWorld (d.platform.poll s.world).2) ds s') :
    let q := { s.events with waiting := s.events.waiting ++ Delivery.events ds }
    Step d s ⟨some (.pollEvents filter), (d.platform.poll s.world).1, ds,
      .ok (.events (q.drain filter).1), (q.drain filter).2.current⟩
      { s' with events := (q.drain filter).2 } := by
  intro q
  have hlead : exec (Operation.lead d (.pollEvents filter)) s = (.ok (), s) :=
    exec_requireVisible_ok hshow _
  have hevents : s'.events = q := hpath.events
  have htail : exec (Operation.tail d (.pollEvents filter)) s' =
      (.ok (.events (q.drain filter).1), { s' with events := (q.drain filter).2 }) := by
    rw [Operation.exec_tail_pollEvents, hevents]
  exact .pumped (a := .ok _) rfl hlead rfl (exec_pump_of_path hs hok hflat hpath)
    (.done hflat hpath) htail

/-- Where the first size has an area, the opening settles it without a wait. -/
theorem Window.opened_at_once {config : Config} {world w₁ w₂ : W} (size : Extent)
    (hopen : openWith d config world = (.ok (), s)) (hshow : config.showWindow = true)
    (hread : d.platform.framebufferSize world = (size, w₁)) (hsize : size.isEmpty = false)
    (hresize : d.renderer.resize size w₁ = (.ok (), w₂)) :
    Course d config world [⟨none, openingBatch config, [.resized .opening ⟨[], size⟩], .ok .done,
      s.events.current⟩] s := by
  obtain ⟨-, ds, s₁, hends, hprepare⟩ := openWith_ends hopen
  have hflat : Flatten (openingBatch config) [.resized .opening (⟨[], size⟩ : Settling α Raw)] := by
    rw [openingBatch, if_pos hshow]
    have hinner : Flatten (Settling.deferred (⟨[], size⟩ : Settling α Raw)) [] := .nil
    exact .resized rfl hinner .nil
  have hpath : Path d config.size (fresh d config world)
      [.resized .opening (⟨[], size⟩ : Settling α Raw)] _ :=
    .resized rfl (.last hread) hsize hresize .nil
  obtain ⟨hflat', hpath'⟩ := hends.of_ok
  obtain ⟨rfl, rfl⟩ := hpath'.unique hflat'.works hflat.works hpath
  exact .opened hopen hends hprepare

end Settled

/-! ## Turns -/

/-- The reports of a turn in the order in which the platform gave them out. -/
def Turn.arrivals (turn : Turn W α β Raw) : List (Report α Raw) :=
  turn.batch ++ turn.delivered.flatMap Delivery.deferred

/-- The reports of a course in the order in which the platform gave them out. -/
def arrivals (turns : List (Turn W α β Raw)) : List (Report α Raw) := turns.flatMap Turn.arrivals

/-- The reports of a course with the numbers of their arrival, in the order of delivery. -/
def numbered (start : Nat) : List (Turn W α β Raw) → List (Report α Raw × Nat)
  | [] => []
  | turn :: turns =>
    unroll (start + turn.batch.length) (turn.batch.zipIdx start) turn.delivered ++
      numbered (start + turn.arrivals.length) turns

section Numbered

variable {turns : List (Turn W α β Raw)} {start : Nat}

theorem arrivals_cons (turn : Turn W α β Raw) (turns : List (Turn W α β Raw)) :
    arrivals (turn :: turns) = turn.arrivals ++ arrivals turns := List.flatMap_cons

theorem history_cons (turn : Turn W α β Raw) (turns : List (Turn W α β Raw)) :
    history (turn :: turns) = turn.delivered ++ history turns := List.flatMap_cons

/-- All reports of the turns were delivered. -/
def Complete (turns : List (Turn W α β Raw)) : Prop :=
  ∀ turn ∈ turns, Flatten turn.batch turn.delivered

theorem map_fst_numbered (h : Complete turns) (start : Nat) :
    (numbered start turns).map (·.1) = (history turns).map Delivery.report := by
  induction turns generalizing start with
  | nil => rfl
  | cons turn turns ih =>
    obtain ⟨hturn, hturns⟩ := List.forall_mem_cons.1 h
    rw [numbered, history_cons, List.map_append, List.map_append, ih hturns,
      map_fst_unroll hturn.works (List.zipIdx_map_fst _ _)]

theorem perm_unroll_turn {turn : Turn W α β Raw} (h : Flatten turn.batch turn.delivered) :
    (unroll (start + turn.batch.length) (turn.batch.zipIdx start) turn.delivered).Perm
      (turn.arrivals.zipIdx start) := by
  rw [Turn.arrivals, List.zipIdx_append]
  exact perm_unroll h.works (List.zipIdx_map_fst _ _)

theorem perm_numbered (h : Complete turns) :
    (numbered start turns).Perm ((arrivals turns).zipIdx start) := by
  induction turns generalizing start with
  | nil => exact .refl _
  | cons turn turns ih =>
    obtain ⟨hturn, hturns⟩ := List.forall_mem_cons.1 h
    rw [numbered, arrivals_cons, List.zipIdx_append]
    exact (perm_unroll_turn hturn).append (ih hturns)

/-- Over a course, the order of delivery is that of arrival for a class of reports exactly if no
turn overtakes in that class. -/
theorem pairwise_numbered_iff (h : Complete turns) (q : Report α Raw → Bool) :
    ((numbered start turns).filter (q ·.1)).Pairwise (·.2 < ·.2) ↔
      ∀ turn ∈ turns, overtakes q turn.batch turn.delivered = false := by
  induction turns generalizing start with
  | nil => exact ⟨fun _ _ hmem => absurd hmem List.not_mem_nil, fun _ => .nil⟩
  | cons turn turns ih =>
    obtain ⟨hturn, hturns⟩ := List.forall_mem_cons.1 h
    have hlt : ∀ x ∈ turn.batch.zipIdx start, x.2 < start + turn.batch.length := by
      intro x hx
      have hlt := List.snd_lt_of_mem_zipIdx hx
      omega
    have hfirst := pairwise_unroll_iff (q := q) hturn.works (List.zipIdx_map_fst _ _) hlt
      ((pairwise_zipIdx turn.batch start).filter _)
    rw [List.forall_mem_cons, ← hfirst, ← ih hturns, numbered, List.filter_append,
      List.pairwise_append]
    refine ⟨fun hall => ⟨hall.1, hall.2.1⟩, fun hboth => ⟨hboth.1, hboth.2, fun x hx y hy => ?_⟩⟩
    -- an earlier turn has the smaller numbers
    have hx' := List.snd_lt_of_mem_zipIdx
      ((perm_unroll_turn hturn).mem_iff.1 (List.mem_filter.1 hx).1)
    have hy' :=
      List.le_snd_of_mem_zipIdx ((perm_numbered hturns).mem_iff.1 (List.mem_filter.1 hy).1)
    omega

/-- Without overtaking in a class of reports, whatever is made of reports of that class alone comes
in the order of arrival. -/
theorem filterMap_history {t : Type} (h : Complete turns) (q : Report α Raw → Bool)
    (hq : ∀ turn ∈ turns, overtakes q turn.batch turn.delivered = false)
    (f : Report α Raw → Option t) (hf : ∀ r, (f r).isSome = true → q r = true) :
    ((history turns).map Delivery.report).filterMap f = (arrivals turns).filterMap f := by
  have hsame : (numbered 0 turns).filter (q ·.1) = ((arrivals turns).zipIdx).filter (q ·.1) := by
    refine List.Perm.eq_of_pairwise (fun x y _ _ hxy hyx => absurd hxy (Nat.lt_asymm hyx))
      ((pairwise_numbered_iff h q).2 hq) ((pairwise_zipIdx _ _).filter _)
      ((perm_numbered h).filter _)
  have hclass (l : List (Report α Raw × Nat)) :
      (l.map (·.1)).filterMap f = ((l.filter (q ·.1)).map (·.1)).filterMap f := by
    rw [List.filterMap_map, List.filterMap_map, List.filterMap_filter]
    refine congrArg (List.filterMap · l) (funext fun x => ?_)
    rcases hqx : q x.1 with _ | _
    · rcases hfx : f x.1 with _ | y
      · simp [hfx]
      · rw [hf x.1 (by rw [hfx]; rfl)] at hqx
        cases hqx
    · rfl
  rw [← map_fst_numbered h 0, hclass, hsame, ← hclass, List.zipIdx_map_fst]

end Numbered

/-! ## Buttons -/

def Occurrence.actionOn? (b : Button) : Occurrence α → Option Action
  | .key c action | .mouse c action => if c = b then some action else none
  | _ => none

def Report.actionOn? (b : Button) (r : Report α Raw) : Option Action :=
  r.occurrence.bind (Occurrence.actionOn? b)

/-- What reports do to a button, one after the other. -/
def actionsOn (b : Button) (reports : List (Report α Raw)) : List Action :=
  reports.filterMap (Report.actionOn? b)

/-- Whether a button is down after some actions: the last of them tells. -/
def downAfter (down : Bool) (actions : List Action) : Bool :=
  (actions.getLast?.map Action.leavesDown).getD down

@[simp] theorem downAfter_nil (down : Bool) : downAfter down [] = down := rfl

theorem downAfter_cons (down : Bool) (action : Action) (actions : List Action) :
    downAfter down (action :: actions) = downAfter action.leavesDown actions := by
  unfold downAfter
  rw [List.getLast?_cons]
  rcases actions.getLast? with _ | _ <;> rfl

theorem downAfter_append (down : Bool) (actions actions' : List Action) :
    downAfter down (actions ++ actions') = downAfter (downAfter down actions) actions' := by
  induction actions generalizing down with
  | nil => rfl
  | cons action actions ih => rw [List.cons_append, downAfter_cons, ih, downAfter_cons]

theorem Report.actionOn?_of_isResize {r : Report α Raw} (hr : r.isResize = true) (b : Button) :
    r.actionOn? b = none := by
  rcases r with ⟨_ | o, raw⟩
  · cases hr
  · cases o with
    | resized size => rfl
    | _ => cases hr

section Buttons

variable [Scalar α] [Narrowing α β]

theorem Occurrence.isPressed_enter {ι : Type} (size : Extent) (i : Input α β ι) (o : Occurrence α)
    (b : Button) :
    (o.enter size i).isPressed b = downAfter (i.isPressed b) (o.actionOn? b).toList := by
  cases o with
  | key c action | mouse c action =>
    rw [enter, Input.isPressed_record, actionOn?]
    split <;> rfl
  | cursorMoved x y =>
    have hpressed : (i.moveCursor x y size).pressed = i.pressed := by
      unfold Input.moveCursor
      split <;> rfl
    rw [enter, Input.isPressed, hpressed]
    rfl
  | scrolled dx dy => rfl
  | resized size => rfl

namespace Window

variable {d : Devices W α Raw Frame} {s s' : Window W α β} {size : Extent}
  {ds : List (Delivery α Raw)}

theorem isPressed_land (s : Window W α β) (size : Extent) (r : Report α Raw) (b : Button) :
    (s.land size r).input.isPressed b = downAfter (s.input.isPressed b) (r.actionOn? b).toList := by
  rcases r with ⟨_ | o, raw⟩
  · rfl
  · exact o.isPressed_enter size s.input b

/-- A button is down after some deliveries if the last of them that concerns it leaves it down. -/
theorem Path.isPressed (h : Path d size s ds s') (b : Button) :
    s'.input.isPressed b =
      downAfter (s.input.isPressed b) (actionsOn b (ds.map Delivery.report)) := by
  induction h with
  | nil => rfl
  | @plain size s s' r ds _ _ ih =>
    rw [ih, isPressed_land, ← downAfter_append, List.map_cons, Delivery.report, actionsOn,
      actionsOn, List.filterMap_cons]
    rcases r.actionOn? b with _ | action <;> rfl
  | @resized size s s' r g w₁ w₂ ds hr _ _ _ _ ih =>
    rw [ih, List.map_cons, Delivery.report, actionsOn, actionsOn, List.filterMap_cons,
      Report.actionOn?_of_isResize hr]
    rfl

variable [Scalar β] {config : Config} {world : W} {turns : List (Turn W α β Raw)}
  {turn : Turn W α β Raw}

omit [Scalar β] in
theorem Ends.isPressed {batch : List (Report α Raw)} {p : Except Halt Unit × Window W α β}
    (h : Ends d s batch ds p) (b : Button) :
    p.2.input.isPressed b =
      downAfter (s.input.isPressed b) (actionsOn b (ds.map Delivery.report)) := by
  obtain ⟨s₁, w, hpath, hp⟩ := h.path
  rw [hp]
  exact hpath.isPressed b

theorem Step.isPressed (h : Step d s turn s') (b : Button) :
    s'.input.isPressed b =
      downAfter (s.input.isPressed b) (actionsOn b (turn.delivered.map Delivery.report)) := by
  obtain ⟨s₁, s₂, hinput, hpath, hlast⟩ := h.input_eq
  rw [hlast, turn.onInput_eq (f := (·.isPressed b)) fun _ => rfl, hpath.isPressed, hinput]

/-- A button is down if the last report of the course that concerns it leaves it down. -/
theorem Course.isPressed (h : Course d config world turns s) (b : Button) :
    s.input.isPressed b =
      downAfter false (actionsOn b ((history turns).map Delivery.report)) := by
  induction h with
  | opened _ hends hprepare =>
    rw [(keeps_prepareForNextFrame d (f := Window.input)
      ⟨fun _ _ => rfl, fun _ _ => rfl⟩).eq hprepare, history_singleton]
    exact hends.isPressed b
  | next _ hstep ih =>
    rw [hstep.isPressed, ih, history_append, history_singleton, List.map_append, actionsOn,
      actionsOn, actionsOn, List.filterMap_append, downAfter_append]

theorem Step.flatten (h : Step d s turn s') (hok : turn.answer.isOk = true) :
    Flatten turn.batch turn.delivered := by
  cases h with
  | alone => exact .nil
  | refused => cases hok
  | interrupted => cases hok
  | pumped hop hlead hpoll hpump hends htail => exact hends.of_ok.1

/-- Where nothing fails, everything is delivered. -/
theorem Course.complete (h : Course d config world turns s)
    (hok : ∀ turn ∈ turns, turn.answer.isOk = true) : Complete turns := by
  induction h with
  | opened _ hends =>
    intro turn hturn
    obtain rfl := List.mem_singleton.1 hturn
    exact hends.of_ok.1
  | next _ hstep ih =>
    intro turn hturn
    rcases List.mem_append.1 hturn with hmem | hmem
    · exact ih (fun turn hturn => hok turn (List.mem_append_left _ hturn)) turn hmem
    · obtain rfl := List.mem_singleton.1 hmem
      exact hstep.flatten (hok _ hturn)

/-- In a course where nothing fails, every report that the platform gives out is delivered once. For
any class of reports, the order of delivery is that of arrival exactly if no change of size
overtakes in that class. The queue has its events in the order of delivery: they are the ones that
were given to the host program together with the ones that wait, and in that order if nothing was
taken by its kind. Where no change of size overtakes they come in the order of arrival as well, and
a button is down if the last report about it to arrive leaves it down; in any case the last one to
be delivered decides. -/
theorem input_order (h : Course d config world turns s)
    (hok : ∀ turn ∈ turns, turn.answer.isOk = true) :
    (numbered 0 turns).map (·.1) = (history turns).map Delivery.report ∧
      (numbered 0 turns).Perm (arrivals turns).zipIdx ∧
      (∀ q : Report α Raw → Bool,
        ((numbered 0 turns).filter (q ·.1)).Pairwise (·.2 < ·.2) ↔
          ∀ turn ∈ turns, overtakes q turn.batch turn.delivered = false) ∧
      ((Ledger.ofTurns turns).arrived = Delivery.events (history turns) ∧
        s.events.waiting = (Ledger.ofTurns turns).waiting.map (·.1) ∧
        turns.flatMap Turn.handed = (Ledger.ofTurns turns).handed.map (·.1) ∧
        (Ledger.ofTurns turns).Sound) ∧
      ((∀ turn ∈ turns, turn.Unfiltered) →
        turns.flatMap Turn.handed ++ s.events.waiting = Delivery.events (history turns)) ∧
      ((∀ turn ∈ turns, overtakes (·.event?.isSome) turn.batch turn.delivered = false) →
        Delivery.events (history turns) = (arrivals turns).filterMap Report.event?) ∧
      ∀ b, s.input.isPressed b =
          downAfter false (actionsOn b ((history turns).map Delivery.report)) ∧
        ((∀ turn ∈ turns, overtakes (fun r => (r.actionOn? b).isSome) turn.batch
            turn.delivered = false) →
          s.input.isPressed b = downAfter false (actionsOn b (arrivals turns))) := by
  have hcomplete := h.complete hok
  refine ⟨map_fst_numbered hcomplete 0, perm_numbered hcomplete,
    fun q => pairwise_numbered_iff hcomplete q,
    ⟨arrived_ofTurns turns, h.ledger.1, h.ledger.2, Ledger.sound_ofTurns turns⟩,
    h.handed_append_waiting, fun hq => ?_, fun b => ⟨h.isPressed b, fun hq => ?_⟩⟩
  · rw [← filterMap_history hcomplete _ hq Report.event? fun _ hr => hr, List.filterMap_map]
    rfl
  · rw [h.isPressed b, actionsOn, actionsOn,
      filterMap_history hcomplete _ hq (Report.actionOn? b) fun _ hr => hr]

/-- A stage where the wait for a size brings the release of a key whose press is pending. -/
def overtakenStage : Script.Stage Rat Unit where
  platform :=
    { polls := [[⟨some (.resized ⟨0, 0⟩), none⟩, ⟨some (.key (.key .keyA) .press), none⟩]]
      waits := [[⟨some (.key (.key .keyA) .release), none⟩]]
      sizes := [⟨640, 480⟩, ⟨0, 0⟩, ⟨800, 600⟩]
      size := ⟨640, 480⟩ }
  renderer := { size := ⟨640, 480⟩ }
  gui := {}
  clock := {}

def overtakenWindow : Window (Script.Stage Rat Unit) Rat Rat :=
  (openWith Script.devices {} overtakenStage).2

def overtakenSettling : Settling Rat Unit :=
  ⟨[(⟨0, 0⟩, [⟨some (.key (.key .keyA) .release), none⟩])], ⟨800, 600⟩⟩

def overtakenDeliveries : List (Delivery Rat Unit) :=
  [.resized ⟨some (.resized ⟨0, 0⟩), none⟩ overtakenSettling,
    .plain ⟨some (.key (.key .keyA) .release), none⟩,
    .plain ⟨some (.key (.key .keyA) .press), none⟩]

theorem overtaken_flatten :
    Flatten (Script.devices.platform.poll overtakenWindow.world).1 overtakenDeliveries := by
  have hinner : Flatten overtakenSettling.deferred
      [.plain ⟨some (.key (.key .keyA) .release), none⟩] :=
    show Flatten [_] _ from .plain rfl .nil
  exact Flatten.resized (r := ⟨some (.resized ⟨0, 0⟩), none⟩) rfl hinner (.plain rfl .nil)

theorem overtaken_path : ∃ s, Path Script.devices overtakenWindow.config.size
    (overtakenWindow.inWorld (Script.devices.platform.poll overtakenWindow.world).2)
    overtakenDeliveries s :=
  ⟨_, .resized rfl (.again rfl rfl rfl (.last rfl)) rfl rfl (.plain rfl (.plain rfl .nil))⟩

/-- The turn of that window, where `.pollEvents` gives out the release before the press. -/
def overtakenTurn : Turn (Script.Stage Rat Unit) Rat Rat Unit where
  operation := some (.pollEvents .any)
  batch := (Script.devices.platform.poll overtakenWindow.world).1
  delivered := overtakenDeliveries
  answer := .ok (.events [⟨.release, "A"⟩, ⟨.press, "A"⟩])
  slot := {}

theorem overtaken_step : ∃ s, Step Script.devices overtakenWindow overtakenTurn s := by
  obtain ⟨s, hpath⟩ := overtaken_path
  exact ⟨_, step_pollEvents ⟨rfl, rfl⟩ rfl (by decide +kernel) overtaken_flatten hpath⟩

def overtakenOpening : Turn (Script.Stage Rat Unit) Rat Rat Unit where
  operation := none
  batch := openingBatch {}
  delivered := [.resized .opening ⟨[], ⟨640, 480⟩⟩]
  answer := .ok .done
  slot := {}

theorem overtaken_course :
    ∃ s, Course Script.devices {} overtakenStage [overtakenOpening, overtakenTurn] s := by
  have hopen : Course Script.devices {} overtakenStage [overtakenOpening] overtakenWindow :=
    opened_at_once (s := overtakenWindow) ⟨640, 480⟩ rfl rfl rfl rfl rfl
  obtain ⟨s, hstep⟩ := overtaken_step
  exact ⟨s, hopen.next hstep⟩

def overtakenTurns : List (Turn (Script.Stage Rat Unit) Rat Rat Unit) :=
  [overtakenOpening, overtakenTurn]

/-- A press arrives before the release, and yet the queue has the release first and the key stays
down. -/
theorem input_overtaken :
    ∃ s, Course Script.devices {} overtakenStage overtakenTurns s ∧
      (∀ turn ∈ overtakenTurns, turn.answer.isOk = true) ∧
      (arrivals overtakenTurns).filterMap Report.event? =
        [⟨.press, "A"⟩, ⟨.release, "A"⟩] ∧
      Delivery.events (history overtakenTurns) = [⟨.release, "A"⟩, ⟨.press, "A"⟩] ∧
      downAfter false (actionsOn (.key .keyA) (arrivals overtakenTurns)) = false ∧
      s.input.isPressed (.key .keyA) = true := by
  obtain ⟨s, hcourse⟩ := overtaken_course
  refine ⟨s, hcourse, by decide, by decide +kernel, by decide +kernel, by decide +kernel, ?_⟩
  rw [hcourse.isPressed]
  decide +kernel

theorem input_order_overtaken :
    ∃ s, Course Script.devices {} overtakenStage overtakenTurns s ∧
      (numbered 0 overtakenTurns).Perm (arrivals overtakenTurns).zipIdx ∧
      ¬ ((numbered 0 overtakenTurns).filter (·.1.event?.isSome)).Pairwise (·.2 < ·.2) ∧
      overtakenTurns.flatMap Turn.handed ++ s.events.waiting =
        [⟨.release, "A"⟩, ⟨.press, "A"⟩] ∧
      s.input.isPressed (.key .keyA) = downAfter false
        (actionsOn (.key .keyA) ((history overtakenTurns).map Delivery.report)) := by
  obtain ⟨s, hcourse⟩ := overtaken_course
  obtain ⟨-, hperm, hpairwise, -, hqueue, -, hpressed⟩ := input_order hcourse (by decide)
  have hunfiltered : ∀ turn ∈ overtakenTurns, turn.Unfiltered := by
    refine List.forall_mem_cons.2 ⟨?_, List.forall_mem_singleton.2 ?_⟩
    · rintro filter (h | h) <;> cases h
    · rintro filter (h | h) <;> cases h
      rfl
  refine ⟨s, hcourse, hperm, fun hall => ?_, hqueue hunfiltered, (hpressed (.key .keyA)).1⟩
  have hnone := (hpairwise (·.event?.isSome)).1 hall overtakenTurn
    (List.mem_cons_of_mem _ List.mem_cons_self)
  revert hnone
  decide +kernel

end Window

end Buttons

end WindowHost
