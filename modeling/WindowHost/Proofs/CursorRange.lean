import Mathlib.Algebra.Order.Field.Basic
import Mathlib.Algebra.Order.Field.Rat
import WindowHost.Proofs.Order
import WindowHost.Proofs.Place

/-!
# The range of the cursor

A place in pixels becomes fractions of the size that was settled last, which is the one that the
platform has by then, and need not be the one that its reports have announced. So a place that lies
within the announced size can come out beyond the unit square. `cursor_in_range` says exactly when
the cursor is in range, and that it always is where every change of size is settled at once and to
the size that was announced.
-/

namespace WindowHost

variable {W α β Raw Frame : Type}

/-- Whether a place in pixels lies on a surface of that size, its edges among it. -/
def Extent.Covers (size : Extent) (p : Rat × Rat) : Prop :=
  (0 ≤ p.1 ∧ p.1 ≤ size.width.toNat) ∧ 0 ≤ p.2 ∧ p.2 ≤ size.height.toNat

def InUnitSquare (p : Rat × Rat) : Prop := (0 ≤ p.1 ∧ p.1 ≤ 1) ∧ 0 ≤ p.2 ∧ p.2 ≤ 1

instance (size : Extent) (p : Rat × Rat) : Decidable (size.Covers p) :=
  inferInstanceAs (Decidable
    ((0 ≤ p.1 ∧ p.1 ≤ size.width.toNat) ∧ 0 ≤ p.2 ∧ p.2 ≤ size.height.toNat))

instance (p : Rat × Rat) : Decidable (InUnitSquare p) :=
  inferInstanceAs (Decidable ((0 ≤ p.1 ∧ p.1 ≤ 1) ∧ 0 ≤ p.2 ∧ p.2 ≤ 1))

/-- The fractions of a size that a place makes, upwards instead of downwards, are in the unit square
exactly if the size covers the place. -/
theorem Extent.inUnitSquare_iff {size : Extent} (hsize : size.isEmpty = false) (p : Rat × Rat) :
    InUnitSquare (p.1 / size.width.toNat, 1 - p.2 / size.height.toNat) ↔ size.Covers p := by
  obtain ⟨hwidth, hheight⟩ : 0 < size.width.toNat ∧ 0 < size.height.toNat := by
    simpa [isEmpty, ← UInt32.toNat_inj, Nat.pos_iff_ne_zero] using hsize
  have hw : (0 : Rat) < size.width.toNat := by exact_mod_cast hwidth
  have hh : (0 : Rat) < size.height.toNat := by exact_mod_cast hheight
  have hx : (0 ≤ p.1 / size.width.toNat ∧ p.1 / size.width.toNat ≤ 1) ↔
      0 ≤ p.1 ∧ p.1 ≤ size.width.toNat := by
    rw [le_div_iff₀ hw, zero_mul, div_le_one hw]
  have hy : (0 ≤ 1 - p.2 / size.height.toNat ∧ 1 - p.2 / size.height.toNat ≤ 1) ↔
      0 ≤ p.2 ∧ p.2 ≤ size.height.toNat := by
    rw [sub_nonneg, div_le_one hh, sub_le_self_iff, le_div_iff₀ hh, zero_mul, and_comm]
  exact and_congr hx hy

/-! ## Places and announced sizes -/

def Occurrence.place? : Occurrence α → Option (α × α)
  | .cursorMoved x y => some (x, y)
  | _ => none

/-- The place of the cursor that a report tells, in pixels. -/
def Report.place? (r : Report α Raw) : Option (α × α) := r.occurrence.bind Occurrence.place?

/-- A change of size tells no place. -/
def Delivery.place? : Delivery α Raw → Option (α × α)
  | .plain r => r.place?
  | .resized _ _ => none

/-- The size that is announced after a report: a size without an area announces none. -/
def Report.announced (size : Extent) (r : Report α Raw) : Extent :=
  match r.occurrence with
  | some (.resized new) => if new.isEmpty then size else new
  | _ => size

/-- Each place lies within the size that is announced last before it. -/
def WithinAnnounced (size : Extent) : List (Report Rat Raw) → Prop
  | [] => True
  | r :: rs => (∀ p, r.place? = some p → size.Covers p) ∧ WithinAnnounced (r.announced size) rs

/-- Each change of size is settled without a wait, and to the announced size. -/
def Punctual (size : Extent) : List (Delivery α Raw) → Prop
  | [] => True
  | .plain _ :: ds => Punctual size ds
  | .resized r g :: ds => g.waits = [] ∧ g.size = r.announced size ∧ Punctual g.size ds

theorem Report.announced_of_plain {r : Report α Raw} (hr : r.isResize = false) (size : Extent) :
    r.announced size = size := by
  rcases r with ⟨_ | o, raw⟩
  · rfl
  · cases o with
    | resized new => cases hr
    | _ => rfl

section Punctual

variable {size : Extent} {ds before after : List (Delivery α Raw)} {rs : List (Report α Raw)}

theorem Punctual.deferred (h : Punctual size ds) : ∀ x ∈ ds, x.deferred = [] := by
  induction ds generalizing size with
  | nil => exact fun x hx => absurd hx List.not_mem_nil
  | cons y ds ih =>
    cases y with
    | plain r => exact List.forall_mem_cons.2 ⟨rfl, ih h⟩
    | resized r g =>
      obtain ⟨hwaits, -, hrest⟩ := h
      refine List.forall_mem_cons.2 ⟨?_, ih hrest⟩
      rw [Delivery.deferred, Settling.deferred, hwaits]
      rfl

/-- Where nothing is deferred, a list is worked off as it stands. -/
theorem Works.reports (h : Works rs ds) (hds : ∀ x ∈ ds, x.deferred = []) :
    rs = ds.map Delivery.report := by
  induction h with
  | nil => rfl
  | @cons x rs ds _ ih =>
    obtain ⟨hx, hds⟩ := List.forall_mem_cons.1 hds
    rw [List.map_cons, ← ih hds, hx, List.nil_append]

theorem Flatten.isResize_of_plain (h : Flatten rs ds) {r : Report α Raw} (hr : .plain r ∈ ds) :
    r.isResize = false := by
  induction h with
  | nil => cases hr
  | plain hplain _ ih =>
    cases hr with
    | head => exact hplain
    | tail _ hr => exact ih hr
  | resized _ _ _ ihInner ihOuter =>
    cases hr with
    | tail _ hr => exact (List.mem_append.1 hr).elim ihInner ihOuter

/-- Where nothing is deferred, a course delivers what arrives. -/
theorem arrivals_eq {turns : List (Turn W α β Raw)} (hcomplete : Complete turns)
    (hds : ∀ x ∈ history turns, x.deferred = []) :
    arrivals turns = (history turns).map Delivery.report := by
  induction turns with
  | nil => rfl
  | cons turn turns ih =>
    obtain ⟨hturn, hturns⟩ := List.forall_mem_cons.1 hcomplete
    rw [history_cons] at hds ⊢
    obtain ⟨hhead, htail⟩ := List.forall_mem_append.1 hds
    have hnone : turn.delivered.flatMap Delivery.deferred = [] := List.flatMap_eq_nil_iff.2 hhead
    rw [arrivals_cons, Turn.arrivals, hnone, List.append_nil, ih hturns htail, List.map_append,
      hturn.works.reports hhead]

/-- Punctual deliveries have settled at each place the size that was announced before it. -/
theorem WithinAnnounced.covers {ds before after : List (Delivery Rat Raw)} {x : Delivery Rat Raw}
    {p : Rat × Rat} (h : WithinAnnounced size (ds.map Delivery.report))
    (hpunctual : Punctual size ds)
    (hplain : ∀ r, .plain r ∈ ds → r.isResize = false) (hds : ds = before ++ x :: after)
    (hx : x.place? = some p) : (Window.lastSize size before).Covers p := by
  induction before generalizing size ds with
  | nil =>
    subst hds
    cases x with
    | plain r => exact h.1 p hx
    | resized r g => cases hx
  | cons y before ih =>
    subst hds
    have hplain' : ∀ r, .plain r ∈ before ++ x :: after → r.isResize = false :=
      fun r hr => hplain r (List.mem_cons_of_mem _ hr)
    cases y with
    | plain r =>
      have hrest : WithinAnnounced (r.announced size) _ := h.2
      rw [Report.announced_of_plain (hplain r List.mem_cons_self)] at hrest
      exact ih hrest hpunctual hplain' rfl
    | resized r g =>
      obtain ⟨-, hsize, hpunctual⟩ := hpunctual
      have hrest : WithinAnnounced (r.announced size) _ := h.2
      rw [← hsize] at hrest
      exact ih hrest hpunctual hplain' rfl

end Punctual

/-! ## The last place -/

section LastPlace

variable [Scalar α] [Narrowing α β] {size : Extent} {p : β × β} {ds : List (Delivery α Raw)}

theorem lastPlace_of_none (h : ∀ x ∈ ds, x.place? = none) : lastPlace size p ds = p := by
  induction ds generalizing size with
  | nil => rfl
  | cons x ds ih =>
    obtain ⟨hx, hds⟩ := List.forall_mem_cons.1 h
    cases x with
    | plain r =>
      have hplace : r.place size p = p := by
        rcases r with ⟨_ | o, raw⟩
        · rfl
        · cases o with
          | cursorMoved x y => cases hx
          | _ => rfl
      rw [lastPlace, hplace, ih hds]
    | resized r g => exact ih hds

/-- The last place decides, as fractions of the size at its delivery. -/
theorem Window.lastPlace_split {before after : List (Delivery α Raw)} {x : Delivery α Raw}
    {q : α × α} (hx : x.place? = some q) (hafter : ∀ y ∈ after, y.place? = none) :
    lastPlace size p (before ++ x :: after) =
      (Narrowing.narrow (q.1 / Scalar.ofNat (lastSize size before).width.toNat),
        Narrowing.narrow (q.2 / Scalar.ofNat (lastSize size before).height.toNat)) := by
  rw [lastPlace_append]
  cases x with
  | plain r =>
    rw [lastPlace, lastPlace_of_none hafter]
    rcases r with ⟨_ | o, raw⟩
    · cases hx
    · cases o with
      | cursorMoved x y =>
        cases hx
        rfl
      | _ => cases hx
  | resized r g => cases hx

omit [Scalar α] in
/-- Deliveries tell no place, or some delivery is the last one that does. -/
theorem exists_last_place (ds : List (Delivery α Raw)) :
    (∀ x ∈ ds, x.place? = none) ∨ ∃ before x after q, ds = before ++ x :: after ∧
      x.place? = some q ∧ ∀ y ∈ after, y.place? = none := by
  induction ds with
  | nil => exact .inl fun x hx => absurd hx List.not_mem_nil
  | cons x ds ih =>
    rcases ih with hnone | ⟨before, y, after, q, rfl, hy, hafter⟩
    · rcases hx : x.place? with _ | q
      · exact .inl (List.forall_mem_cons.2 ⟨hx, hnone⟩)
      · exact .inr ⟨[], x, ds, q, rfl, hx, hnone⟩
    · exact .inr ⟨x :: before, y, after, q, rfl, hy, hafter⟩

end LastPlace

namespace Window

/-! ## In range -/

section InRange

variable [Scalar β] {s : Window W α β}

theorem exec_cursorPosition (hvisible : s.config.showWindow = true) :
    exec cursorPosition s = (.ok (s.input.position.1, Scalar.ofNat 1 - s.input.position.2), s) := by
  rw [cursorPosition, exec_bind_of_ok (exec_requireVisible_ok hvisible _),
    exec_bind_of_ok (exec_get s)]
  rfl

end InRange

variable {d : Devices W Rat Raw Frame} {config : Config} {world : W} {s : Window W Rat Rat}
  {turns : List (Turn W Rat Rat Raw)}

/-- The cursor is in range if the size at the delivery of the last place covers that place. -/
theorem Course.inUnitSquare_iff (h : Course d config world turns s) :
    InUnitSquare (s.input.position.1, 1 - s.input.position.2) ↔
      ∀ before x after p, history turns = before ++ x :: after → x.place? = some p →
        (∀ y ∈ after, y.place? = none) → (lastSize config.size before).Covers p := by
  have hsplit {before x after p} (hds : history turns = before ++ x :: after)
      (hx : x.place? = some p) (hafter : ∀ y ∈ after, y.place? = none) :
      InUnitSquare (s.input.position.1, 1 - s.input.position.2) ↔
        (lastSize config.size before).Covers p := by
    rw [h.position_eq, hds, lastPlace_split hx hafter]
    exact Extent.inUnitSquare_iff (h.lastSize_nonempty hds) p
  refine ⟨fun hin before x after p hds hx hafter => (hsplit hds hx hafter).1 hin, fun hall => ?_⟩
  rcases exists_last_place (history turns) with hnone | ⟨before, x, after, p, hds, hx, hafter⟩
  · rw [h.position_eq, lastPlace_of_none hnone]
    show InUnitSquare ((0 : Rat), 1 - 0)
    decide +kernel
  · exact (hsplit hds hx hafter).2 (hall before x after p hds hx hafter)

/-- A visible window always answers where the cursor is, as exact fractions of the size that was
settled last before the last place was delivered, and they are in the unit square exactly if that
size covers the place. So they always are where nothing fails, each place lies within the size that
the platform has announced before it, and each change of size is settled at once and to the size
that was announced, the one at the opening to the size in the settings. -/
theorem cursor_in_range (h : Course d config world turns s) (hvisible : config.showWindow = true) :
    ∃ p, exec cursorPosition s = (.ok p, s) ∧
      (InUnitSquare p ↔
        ∀ before x after q, history turns = before ++ x :: after → x.place? = some q →
          (∀ y ∈ after, y.place? = none) → (lastSize config.size before).Covers q) ∧
      (Complete turns → Punctual config.size (history turns) →
        WithinAnnounced config.size (arrivals turns) → InUnitSquare p) := by
  have hshow : s.config.showWindow = true := by
    rw [h.config_eq]
    exact hvisible
  refine ⟨_, exec_cursorPosition hshow, h.inUnitSquare_iff, fun hcomplete hpunctual hwithin => ?_⟩
  refine h.inUnitSquare_iff.2 fun before x after p hds hx _ => ?_
  rw [arrivals_eq hcomplete hpunctual.deferred] at hwithin
  refine hwithin.covers hpunctual (fun r hr => ?_) hds hx
  obtain ⟨turn, hturn, hr⟩ := List.mem_flatMap.1 hr
  exact (hcomplete turn hturn).isResize_of_plain hr

/-- The cursor moves between two changes of size, and at the first the surface already has the
second size. -/
def shrinkBatch : List (Report Rat Unit) :=
  [⟨some (.resized ⟨800, 600⟩), none⟩, ⟨some (.cursorMoved 700 500), none⟩,
    ⟨some (.resized ⟨400, 300⟩), none⟩]

def shrinkStage : Script.Stage Rat Unit where
  platform := { polls := [shrinkBatch], sizes := [⟨800, 600⟩, ⟨400, 300⟩], size := ⟨800, 600⟩ }
  renderer := { size := ⟨800, 600⟩ }
  gui := {}
  clock := {}

def shrinkWindow : Window (Script.Stage Rat Unit) Rat Rat :=
  (openWith Script.devices {} shrinkStage).2

def shrinkOpening : Turn (Script.Stage Rat Unit) Rat Rat Unit where
  operation := none
  batch := openingBatch {}
  delivered := [.resized .opening ⟨[], ⟨800, 600⟩⟩]
  answer := .ok .done
  slot := {}

def shrinkTurn : Turn (Script.Stage Rat Unit) Rat Rat Unit where
  operation := some (.pollEvents .any)
  batch := shrinkBatch
  delivered := [.resized ⟨some (.resized ⟨800, 600⟩), none⟩ ⟨[], ⟨400, 300⟩⟩,
    .plain ⟨some (.cursorMoved 700 500), none⟩,
    .resized ⟨some (.resized ⟨400, 300⟩), none⟩ ⟨[], ⟨400, 300⟩⟩]
  answer := .ok (.events [])
  slot := {}

theorem shrink_opened : Course Script.devices {} shrinkStage [shrinkOpening] shrinkWindow :=
  opened_at_once (s := shrinkWindow) ⟨800, 600⟩ rfl rfl rfl rfl rfl

theorem shrink_step : ∃ s, Step Script.devices shrinkWindow shrinkTurn s := by
  have hflat : Flatten shrinkBatch shrinkTurn.delivered := by
    have hnone : Flatten (Settling.deferred (⟨[], ⟨400, 300⟩⟩ : Settling Rat Unit)) [] :=
      show Flatten [] [] from .nil
    have hlast := Flatten.resized (r := ⟨some (.resized ⟨400, 300⟩), none⟩) rfl hnone .nil
    exact Flatten.resized (r := ⟨some (.resized ⟨800, 600⟩), none⟩) rfl hnone (.plain rfl hlast)
  have hpath : ∃ s, Path Script.devices shrinkWindow.config.size
      (shrinkWindow.inWorld (Script.devices.platform.poll shrinkWindow.world).2)
      shrinkTurn.delivered s :=
    ⟨_, .resized rfl (.last rfl) rfl rfl (.plain rfl (.resized rfl (.last rfl) rfl rfl .nil))⟩
  obtain ⟨s, hpath⟩ := hpath
  exact ⟨_, step_pollEvents ⟨rfl, rfl⟩ rfl (by decide +kernel) hflat hpath⟩

/-- Nothing fails and the place lies within the size that was announced last, and still the cursor
is beyond the right and the lower edge. -/
theorem cursor_out_of_range :
    ∃ s, Course Script.devices {} shrinkStage [shrinkOpening, shrinkTurn] s ∧
      ({} : Config).showWindow = true ∧
      (∀ turn ∈ [shrinkOpening, shrinkTurn], turn.answer.isOk = true) ∧
      WithinAnnounced ({} : Config).size (arrivals [shrinkOpening, shrinkTurn]) ∧
      exec cursorPosition s = (.ok (7 / 4, - 2 / 3), s) ∧ ¬ InUnitSquare (7 / 4, - 2 / 3) := by
  obtain ⟨s, hstep⟩ := shrink_step
  have hcourse : Course Script.devices {} shrinkStage [shrinkOpening, shrinkTurn] s :=
    shrink_opened.next hstep
  have hshow : s.config.showWindow = true := by
    rw [hcourse.config_eq]
  refine ⟨s, hcourse, rfl, by decide, ?_, ?_, by decide +kernel⟩
  · have hcovers : Extent.Covers ⟨800, 600⟩ (700, 500) := by decide +kernel
    refine ⟨nofun, nofun, fun p hp => ?_, nofun, trivial⟩
    cases hp
    exact hcovers
  · have hposition : s.input.position = (7 / 4, 5 / 3) := by
      rw [hcourse.position_eq]
      decide +kernel
    have hturned : (1 : Rat) - 5 / 3 = - 2 / 3 := by decide +kernel
    rw [exec_cursorPosition hshow, hposition]
    exact congrArg (fun y => (Except.ok ((7 / 4 : Rat), y), s)) hturned

/-- That window has its cursor in range after its opening, and not after the change of size. -/
theorem cursor_in_range_shrink :
    ∃ (s s' : Window (Script.Stage Rat Unit) Rat Rat) (p p' : Rat × Rat),
      exec cursorPosition s = (.ok p, s) ∧ InUnitSquare p ∧
      Course Script.devices {} shrinkStage [shrinkOpening, shrinkTurn] s' ∧
      exec cursorPosition s' = (.ok p', s') ∧ ¬ InUnitSquare p' := by
  obtain ⟨p, hp, -, hin⟩ := cursor_in_range shrink_opened rfl
  obtain ⟨s', hstep⟩ := shrink_step
  have hcourse : Course Script.devices {} shrinkStage [shrinkOpening, shrinkTurn] s' :=
    shrink_opened.next hstep
  obtain ⟨p', hp', hiff, -⟩ := cursor_in_range hcourse rfl
  have hcomplete : Complete [shrinkOpening] := shrink_opened.complete (by decide)
  have hfirst : InUnitSquare p := by
    refine hin hcomplete ⟨rfl, rfl, trivial⟩ ⟨fun q hq => ?_, trivial⟩
    cases hq
  have hlast : ¬ InUnitSquare p' := by
    intro hp
    have hsplit : history [shrinkOpening, shrinkTurn] =
        [.resized .opening ⟨[], ⟨800, 600⟩⟩,
          .resized ⟨some (.resized ⟨800, 600⟩), none⟩ ⟨[], ⟨400, 300⟩⟩] ++
        .plain ⟨some (.cursorMoved 700 500), none⟩ ::
          [.resized ⟨some (.resized ⟨400, 300⟩), none⟩ ⟨[], ⟨400, 300⟩⟩] := rfl
    have hcovers := hiff.1 hp _ _ _ (700, 500) hsplit rfl (by simp [Delivery.place?])
    revert hcovers
    decide +kernel
  exact ⟨shrinkWindow, s', p, p', hp, hfirst, hcourse, hp', hlast⟩

end Window

end WindowHost
