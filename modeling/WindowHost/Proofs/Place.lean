import WindowHost.Proofs.Pumping

/-!
# The place of the cursor

A place of the cursor comes in physical pixels and is kept as fractions of the size in the settings.
Every size that a delivery settles has an area, and so `Course.position_eq` has no case for a window
without one: the cursor is where the last report of a place has put it.
-/

namespace WindowHost

variable {W α β Raw Frame : Type}

/-- Where the cursor is after a report, as fractions of the size, whatever it is. -/
def Report.place [Scalar α] [Narrowing α β] (size : Extent) (p : β × β) (r : Report α Raw) :
    β × β :=
  match r.occurrence with
  | some (.cursorMoved x y) =>
    (Narrowing.narrow (x / Scalar.ofNat size.width.toNat),
      Narrowing.narrow (y / Scalar.ofNat size.height.toNat))
  | _ => p

/-- Where the cursor is after some deliveries, always as fractions of the size that the renderer was
brought to last. -/
def lastPlace [Scalar α] [Narrowing α β] (size : Extent) (p : β × β) :
    List (Delivery α Raw) → β × β
  | [] => p
  | .plain r :: ds => lastPlace size (r.place size p) ds
  | .resized _ g :: ds => lastPlace g.size p ds

namespace Window

section Place

variable [Scalar α] [Narrowing α β] {d : Devices W α Raw Frame} {size : Extent}
  {s s' : Window W α β} {ds ds' : List (Delivery α Raw)}

theorem lastPlace_append (size : Extent) (p : β × β) (ds ds' : List (Delivery α Raw)) :
    lastPlace size p (ds ++ ds') = lastPlace (lastSize size ds) (lastPlace size p ds) ds' := by
  induction ds generalizing size p with
  | nil => rfl
  | cons x ds ih =>
    cases x with
    | plain r => exact ih size _
    | resized r g => exact ih g.size p

/-- In a size with an area every report of a place is taken in. -/
theorem position_land (hsize : size.isEmpty = false) (s : Window W α β) (r : Report α Raw) :
    (s.land size r).input.position = r.place size s.input.position := by
  rcases r with ⟨_ | o, raw⟩
  · rfl
  · cases o with
    | cursorMoved x y =>
      show (s.input.moveCursor x y size).position = _
      rw [Input.moveCursor, if_neg (by rw [hsize]; decide)]
      rfl
    | _ => rfl

theorem Path.position (h : Path d size s ds s') (hsize : size.isEmpty = false) :
    s'.input.position = lastPlace size s.input.position ds := by
  induction h with
  | nil => rfl
  | plain _ _ ih =>
    rw [ih hsize, position_land hsize]
    rfl
  | resized _ _ hg _ _ ih => exact ih hg

theorem Path.nonempty (h : Path d size s ds s') {r : Report α Raw} {g : Settling α Raw}
    (hmem : .resized r g ∈ ds) : g.size.isEmpty = false := by
  induction h with
  | nil => cases hmem
  | plain _ _ ih =>
    cases hmem with
    | tail _ hmem => exact ih hmem
  | resized _ _ hg _ _ ih =>
    cases hmem with
    | head => exact hg
    | tail _ hmem => exact ih hmem

omit [Scalar α] [Narrowing α β] in
theorem lastSize_nonempty (hsize : size.isEmpty = false)
    (hds : ∀ r g, .resized r g ∈ ds → g.size.isEmpty = false) :
    (lastSize size ds).isEmpty = false := by
  induction ds generalizing size with
  | nil => exact hsize
  | cons x ds ih =>
    have hrest : ∀ r g, .resized r g ∈ ds → g.size.isEmpty = false :=
      fun r g hmem => hds r g (List.mem_cons_of_mem _ hmem)
    cases x with
    | plain r => exact ih hsize hrest
    | resized r g => exact ih (hds r g List.mem_cons_self) hrest

variable [Scalar β] {turn : Turn W α β Raw}

theorem Config.nonempty_of_flaw? {config : Config} (h : config.flaw? = none) :
    config.size.isEmpty = false := by
  rcases hsize : config.size.isEmpty with _ | _
  · rfl
  · rw [Config.flaw?, hsize] at h
    cases h

section Course

variable {config : Config} {world : W} {turns : List (Turn W α β Raw)}

theorem Course.flaw? (h : Course d config world turns s) : config.flaw? = none := by
  induction h with
  | opened hopen => exact (openWith_ends hopen).1
  | next _ _ ih => exact ih

/-- Every size that a course settles has an area. -/
theorem Course.nonempty (h : Course d config world turns s) {r : Report α Raw}
    {g : Settling α Raw} (hmem : .resized r g ∈ history turns) : g.size.isEmpty = false := by
  induction h with
  | opened _ hends =>
    rw [history_singleton] at hmem
    exact hends.of_ok.2.nonempty hmem
  | next _ hstep ih =>
    rw [history_append, history_singleton] at hmem
    rcases List.mem_append.1 hmem with hmem | hmem
    · exact ih hmem
    · obtain ⟨_, _, -, hpath, -⟩ := hstep.input_eq
      exact hpath.nonempty hmem

/-- Whenever a report is delivered, the size that turns places into fractions has an area. -/
theorem Course.lastSize_nonempty (h : Course d config world turns s)
    {before after : List (Delivery α Raw)} (hbefore : history turns = before ++ after) :
    (lastSize config.size before).isEmpty = false := by
  refine Window.lastSize_nonempty (Config.nonempty_of_flaw? h.flaw?) fun r g hmem => ?_
  refine h.nonempty (r := r) ?_
  rw [hbefore]
  exact List.mem_append_left _ hmem

/-- The cursor is where the last report of a place has put it, from the upper left corner on. -/
theorem Course.position_eq (h : Course d config world turns s) :
    s.input.position =
      lastPlace config.size (Scalar.ofNat 0, Scalar.ofNat 0) (history turns) := by
  induction h with
  | @opened ds s₁ s hopen hends hprepare =>
    have hinput : s.input = s₁.input :=
      (keeps_prepareForNextFrame d (f := Window.input) ⟨fun _ _ => rfl, fun _ _ => rfl⟩).eq hprepare
    rw [history_singleton, hinput]
    exact hends.of_ok.2.position (Config.nonempty_of_flaw? (openWith_ends hopen).1)
  | @next turns s turn s' hcourse hstep ih =>
    obtain ⟨s₁, s₂, hinput, hpath, hlast⟩ := hstep.input_eq
    have hplace : s'.input.position = s₂.input.position := by
      rw [hlast]
      exact turn.onInput_eq (f := Input.position) (fun _ => rfl) s₂.input
    have hsize : (lastSize config.size (history turns)).isEmpty = false :=
      hcourse.lastSize_nonempty (List.append_nil _).symm
    rw [hcourse.size_config] at hpath
    rw [history_append, history_singleton, lastPlace_append, hplace, hpath.position hsize,
      hinput, ih]

end Course

end Place

end Window

end WindowHost
