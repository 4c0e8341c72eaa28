import WindowHost.Proofs.TextureFlow

/-!
# Frames that are merged

Frames that were drawn with no attempt to present between them wait merged into one. Merging joins
all updates of textures and puts all drops behind them, so it may differ from presenting the frames
one by one. It does not if no frame uses a texture that an earlier one of them has dropped
(`NeverReused`): then the textures are the same after the last frame, and all that the last frame is
painted with is the same while it is painted. It does not matter which neighbours are merged first
(`Merged`).
-/

namespace WindowHost

namespace Gui

variable {P N C : Type}

/-- A frame stands for others, merged in any order of neighbours. -/
inductive Merged : List (Painted P N C) → Painted P N C → Prop where
  | single (frame) : Merged [frame] frame
  | join {frames frames' older newer} : Merged frames older → Merged frames' newer →
      Merged (frames ++ frames') (older.merge newer)

/-- A frame updates a texture, or its shapes are painted with it. -/
def Frame.Uses (paints : P → N → Prop) (frame : Painted P N C) (name : N) : Prop :=
  name ∈ frame.set.map TextureUpdate.name ∨ paints frame.primitives name

/-- No frame uses a texture that an earlier frame has dropped. -/
def NeverReused (paints : P → N → Prop) (frames : List (Painted P N C)) : Prop :=
  frames.Pairwise fun older newer => ∀ name ∈ older.free, ¬ newer.Uses paints name

instance [DecidableEq N] (paints : P → N → Prop) [∀ shapes name, Decidable (paints shapes name)]
    (frame : Painted P N C) (name : N) : Decidable (frame.Uses paints name) :=
  inferInstanceAs (Decidable (_ ∨ _))

instance [DecidableEq N] (paints : P → N → Prop) [∀ shapes name, Decidable (paints shapes name)]
    (frames : List (Painted P N C)) : Decidable (NeverReused paints frames) :=
  inferInstanceAs (Decidable (List.Pairwise _ _))

namespace Merged

variable {frames : List (Painted P N C)} {frame frame' : Painted P N C}

theorem set_eq (h : Merged frames frame) : frame.set = frames.flatMap Frame.set := by
  induction h with
  | single => exact (List.flatMap_singleton _ _).symm
  | join _ _ ih ih' => rw [Frame.merge, ih, ih', List.flatMap_append]

theorem free_eq (h : Merged frames frame) : frame.free = frames.flatMap Frame.free := by
  induction h with
  | single => exact (List.flatMap_singleton _ _).symm
  | join _ _ ih ih' => rw [Frame.merge, ih, ih', List.flatMap_append]

/-- The shapes and the scale are those of the last frame. -/
theorem exists_getLast? (h : Merged frames frame) :
    ∃ last, frames.getLast? = some last ∧ frame.primitives = last.primitives ∧
      frame.pixelsPerPoint = last.pixelsPerPoint := by
  induction h with
  | single frame => exact ⟨frame, rfl, rfl, rfl⟩
  | join _ _ _ ih' =>
    obtain ⟨last, hlast, hprimitives, hscale⟩ := ih'
    refine ⟨last, ?_, hprimitives, hscale⟩
    rw [List.getLast?_append, hlast]
    rfl

/-- Merging is associative: frames have one merged frame, whichever neighbours are merged first. -/
theorem unique (h : Merged frames frame) (h' : Merged frames frame') : frame = frame' := by
  obtain ⟨last, hlast, hprimitives, hscale⟩ := h.exists_getLast?
  obtain ⟨last', hlast', hprimitives', hscale'⟩ := h'.exists_getLast?
  obtain rfl := Option.some.inj (hlast.symm.trans hlast')
  obtain ⟨primitives, set, free, scale⟩ := frame
  obtain ⟨primitives', set', free', scale'⟩ := frame'
  obtain rfl : primitives = primitives' := hprimitives.trans hprimitives'.symm
  obtain rfl : scale = scale' := hscale.trans hscale'.symm
  obtain rfl : set = set' := h.set_eq.trans h'.set_eq.symm
  obtain rfl : free = free' := h.free_eq.trans h'.free_eq.symm
  rfl

end Merged

namespace Textures

variable [DecidableEq N] {t t' : Textures N C} {name : N}

/-- What updates make of a texture hangs on that texture alone. -/
theorem foldl_update_congr (updates : List (TextureUpdate N C)) (h : t name = t' name) :
    updates.foldl update t name = updates.foldl update t' name := by
  induction updates generalizing t t' with
  | nil => exact h
  | cons u updates ih =>
    refine ih ?_
    unfold update
    rw [h]

theorem foldl_update_of_not_mem (updates : List (TextureUpdate N C))
    (h : name ∉ updates.map TextureUpdate.name) : updates.foldl update t name = t name := by
  induction updates generalizing t with
  | nil => rfl
  | cons u updates ih =>
    obtain ⟨hne, hrest⟩ := not_or.1 (mt List.mem_cons.2 h)
    rw [List.foldl_cons, ih hrest]
    exact if_neg hne

theorem foldl_drop (names : List N) :
    names.foldl drop t name = if name ∈ names then Option.none else t name := by
  induction names generalizing t with
  | nil => rfl
  | cons n names ih =>
    rw [List.foldl_cons, ih]
    by_cases hmem : name ∈ names
    · rw [if_pos hmem, if_pos (List.mem_cons_of_mem n hmem)]
    · by_cases hname : name = n
      · rw [if_neg hmem, if_pos (hname ▸ List.mem_cons_self)]
        exact if_pos hname
      · rw [if_neg hmem, if_neg (mt List.mem_cons.1 (not_or.2 ⟨hname, hmem⟩))]
        exact if_neg hname

/-- What is left of a texture when a frame is painted. -/
theorem afterPaint_apply (t : Textures N C) (frame : Painted P N C) (name : N) :
    t.afterPaint frame name = if name ∈ frame.free then Option.none else t.duringPaint frame name :=
  foldl_drop frame.free

/-- While a newer frame is painted, a texture that the older frame has not dropped is the same
whether the frames are merged or painted one after the other. -/
theorem duringPaint_merge {older newer : Painted P N C} (h : name ∉ older.free) :
    t.duringPaint (older.merge newer) name = (t.afterPaint older).duringPaint newer name := by
  have hkept : t.duringPaint older name = t.afterPaint older name := by
    rw [afterPaint_apply, if_neg h]
  show (older.set ++ newer.set).foldl update t name = _
  rw [List.foldl_append]
  exact foldl_update_congr newer.set hkept

/-- Merging two frames moves the drops of the older one behind the updates of the newer one, which
makes no difference to textures that the newer one does not update. -/
theorem afterPaint_merge {older newer : Painted P N C}
    (h : ∀ name ∈ older.free, name ∉ newer.set.map TextureUpdate.name) (t : Textures N C) :
    t.afterPaint (older.merge newer) = (t.afterPaint older).afterPaint newer := by
  funext name
  rw [afterPaint_apply, afterPaint_apply]
  show (if name ∈ older.free ++ newer.free then Option.none else _) = _
  by_cases hnewer : name ∈ newer.free
  · rw [if_pos (List.mem_append_right _ hnewer), if_pos hnewer]
  · rw [if_neg hnewer]
    by_cases holder : name ∈ older.free
    · -- it is dropped late in the one case and early in the other, with nothing between
      rw [if_pos (List.mem_append_left _ holder), duringPaint,
        foldl_update_of_not_mem newer.set (h name holder), afterPaint_apply, if_pos holder]
    · rw [if_neg (mt List.mem_append.1 (not_or.2 ⟨holder, hnewer⟩)), duringPaint_merge holder]

/-- A texture that the newer frame makes anew under a name that the older one has dropped is lost if
the frames are merged. -/
example :
    let older : Painted Unit Nat String := ⟨(), [⟨0, true, "old"⟩], [0], 1⟩
    let newer : Painted Unit Nat String := ⟨(), [⟨0, true, "new"⟩], [], 1⟩
    none.afterPaint (older.merge newer) 0 = Option.none ∧
      (none.afterPaint older).afterPaint newer 0 = some ["new"] := by
  decide

end Textures

theorem Merged.name_not_mem {paints : P → N → Prop} {frames frames' : List (Painted P N C)}
    {older newer : Painted P N C} (h : Merged frames older) (h' : Merged frames' newer)
    (hfresh : ∀ a ∈ frames, ∀ b ∈ frames', ∀ name ∈ a.free, ¬ b.Uses paints name) :
    ∀ name ∈ older.free, name ∉ newer.set.map TextureUpdate.name := by
  intro name hname hmem
  rw [h.free_eq] at hname
  rw [h'.set_eq] at hmem
  obtain ⟨a, ha, hfree⟩ := List.mem_flatMap.1 hname
  obtain ⟨u, hu, hset⟩ := List.mem_map.1 hmem
  obtain ⟨b, hb, hub⟩ := List.mem_flatMap.1 hu
  exact hfresh a ha b hb name hfree (.inl (List.mem_map.2 ⟨u, hub, hset⟩))

/-- Painting a merged frame leaves the textures that painting its frames one after the other
leaves. -/
theorem Merged.afterPaint [DecidableEq N] {paints : P → N → Prop} {frames : List (Painted P N C)}
    {frame : Painted P N C} (h : Merged frames frame) (hfresh : NeverReused paints frames)
    (t : Textures N C) : t.afterPaint frame = frames.foldl Textures.afterPaint t := by
  induction h generalizing t with
  | single => rfl
  | @join frames frames' older newer h h' ih ih' =>
    obtain ⟨hleft, hright, hcross⟩ := List.pairwise_append.1 hfresh
    rw [Textures.afterPaint_merge (h.name_not_mem h' hcross), ih hleft, ih' hright,
      List.foldl_append]

theorem Merged.exists {frames : List (Painted P N C)} (hne : frames ≠ []) :
    ∃ frame, Merged frames frame := by
  induction frames with
  | nil => exact absurd rfl hne
  | cons frame frames ih =>
    rcases frames with _ | ⟨next, frames⟩
    · exact ⟨frame, .single frame⟩
    · obtain ⟨newer, hnewer⟩ := ih (List.cons_ne_nil _ _)
      exact ⟨frame.merge newer, .join (.single frame) hnewer⟩

/-- While the last frame is painted, a texture that no earlier frame has dropped is the same whether
the frames are merged or painted one after the other. -/
theorem Merged.duringPaint [DecidableEq N] {paints : P → N → Prop}
    {earlier : List (Painted P N C)} {last frame : Painted P N C}
    (h : Merged (earlier ++ [last]) frame) (hfresh : NeverReused paints earlier)
    {name : N} (hname : ∀ a ∈ earlier, name ∉ a.free) (t : Textures N C) :
    t.duringPaint frame name =
      (earlier.foldl Textures.afterPaint t).duringPaint last name := by
  by_cases hempty : earlier = []
  · subst hempty
    rw [h.unique (.single last)]
    rfl
  · obtain ⟨older, holder⟩ := Merged.exists hempty
    have hkept : name ∉ older.free := by
      rw [holder.free_eq]
      intro hmem
      obtain ⟨a, ha, hfree⟩ := List.mem_flatMap.1 hmem
      exact hname a ha hfree
    rw [h.unique (holder.join (.single last)), Textures.duringPaint_merge hkept,
      holder.afterPaint hfresh]

end Gui

namespace Native

open Gui (Painted Textures Merged NeverReused)

variable {P N C : Type}

namespace Surface

/-- Draws frames one after the other. -/
def drawAll (frames : List (Painted P N C)) (s : Surface P N C) : Surface P N C :=
  frames.foldl (fun s frame => s.draw frame) s

/-- Each frame is drawn and presented with success. -/
inductive OneByOne [DecidableEq N] :
    Surface P N C → List (Painted P N C) → Surface P N C → Prop where
  | nil {s} : OneByOne s [] s
  | cons {s s' frame frames} : (s.draw frame).present.1.2 = .ok () →
      OneByOne (s.draw frame).present.2 frames s' → OneByOne s (frame :: frames) s'

variable {s s' : Surface P N C} {frames : List (Painted P N C)}

theorem textures_drawAll (frames : List (Painted P N C)) (s : Surface P N C) :
    (s.drawAll frames).textures = s.textures := by
  induction frames generalizing s with
  | nil => rfl
  | cons frame frames ih => exact ih (s.draw frame)

/-- Frames that are drawn join those that wait. -/
theorem pending_drawAll {before : List (Painted P N C)} {older : Painted P N C}
    (hs : s.pending = some older) (hbefore : Merged before older) :
    ∃ frame, (s.drawAll frames).pending = some frame ∧ Merged (before ++ frames) frame := by
  induction frames generalizing s before older with
  | nil =>
    rw [List.append_nil]
    exact ⟨older, hs, hbefore⟩
  | cons frame frames ih =>
    have hdraw : (s.draw frame).pending = some (older.merge frame) := by rw [draw, hs]
    obtain ⟨merged, hpending, hmerged⟩ := ih hdraw (hbefore.join (.single frame))
    rw [List.append_assoc] at hmerged
    exact ⟨merged, hpending, hmerged⟩

/-- Drawing changes nothing of what a frame is painted with. -/
theorem painting_drawAll [DecidableEq N] (frames : List (Painted P N C)) (s : Surface P N C) :
    (s.drawAll frames).painting = s.painting := by
  induction frames generalizing s with
  | nil => rfl
  | cons frame frames ih => exact ih (s.draw frame)

theorem pending_draw {frame : Painted P N C} (hs : s.pending = none) :
    (s.draw frame).pending = some frame := by
  rw [draw, hs]

/-- The frames that were drawn wait merged into one. -/
theorem exists_merged (hs : s.pending = none) (hne : frames ≠ []) :
    ∃ frame, (s.drawAll frames).pending = some frame ∧ Merged frames frame := by
  rcases frames with _ | ⟨frame, frames⟩
  · exact absurd rfl hne
  · exact pending_drawAll (pending_draw hs) (.single frame)

variable [DecidableEq N]

/-- A present that succeeds paints what waits. -/
theorem present_ok (h : s.present.1.2 = .ok ()) :
    s.present.2.pending = none ∧
      s.present.2.textures = s.pending.elim s.textures s.textures.afterPaint ∧
      s.present.2.shown = s.pending.map s.painting := by
  obtain ⟨entries, gpu, hpresent⟩ := present_eq s
  rw [hpresent] at h ⊢
  by_cases hgrants : s.grants = true
  · exact ⟨rfl, if_pos hgrants, if_pos hgrants⟩
  · dsimp only at h
    rw [if_neg hgrants] at h
    cases h

theorem present_draw_ok {frame : Painted P N C} (hs : s.pending = none)
    (h : (s.draw frame).present.1.2 = .ok ()) :
    (s.draw frame).present.2.pending = none ∧
      (s.draw frame).present.2.textures = s.textures.afterPaint frame ∧
      (s.draw frame).present.2.shown = some (s.painting frame) := by
  obtain ⟨hpending, htextures, hshown⟩ := present_ok h
  rw [pending_draw hs] at htextures hshown
  exact ⟨hpending, htextures, hshown⟩

theorem OneByOne.textures_eq (h : OneByOne s frames s') (hs : s.pending = none) :
    s'.pending = none ∧ s'.textures = frames.foldl Textures.afterPaint s.textures := by
  induction h with
  | nil => exact ⟨hs, rfl⟩
  | cons hok _ ih =>
    obtain ⟨hpending, htextures, -⟩ := present_draw_ok hs hok
    obtain ⟨hpending', htextures'⟩ := ih hpending
    refine ⟨hpending', htextures'.trans ?_⟩
    rw [htextures, List.foldl_cons]

end Surface

/-- Frames that are drawn and then presented as one leave the textures that presenting them one by
one leaves, if no frame uses a texture that an earlier one has dropped. What is shown in the end has
the shapes and the scale of the last frame either way, and all textures of those shapes are the same
while they are painted. The frame that waits is the same in whichever order neighbours are
merged. -/
theorem present_merged [DecidableEq N] {paints : P → N → Prop} {earlier : List (Painted P N C)}
    {last : Painted P N C} (hfresh : NeverReused paints (earlier ++ [last]))
    {s t t' : Surface P N C} (hs : s.pending = none) (ht : t.pending = none)
    (htextures : s.textures = t.textures) (hone : Surface.OneByOne t earlier t')
    (hok : (s.drawAll (earlier ++ [last])).present.1.2 = .ok ())
    (hlast : (t'.draw last).present.1.2 = .ok ()) :
    (s.drawAll (earlier ++ [last])).present.2.textures = (t'.draw last).present.2.textures ∧
      (∃ during during',
        (s.drawAll (earlier ++ [last])).present.2.shown =
            some ⟨last.primitives, s.size, last.pixelsPerPoint, during⟩ ∧
          (t'.draw last).present.2.shown =
            some ⟨last.primitives, t'.size, last.pixelsPerPoint, during'⟩ ∧
          ∀ name, paints last.primitives name → during name = during' name) ∧
      ∀ frame, Merged (earlier ++ [last]) frame →
        (s.drawAll (earlier ++ [last])).pending = some frame := by
  have hne : earlier ++ [last] ≠ [] := List.append_ne_nil_of_right_ne_nil _ (List.cons_ne_nil _ _)
  obtain ⟨merged, hpending, hmerged⟩ := Surface.exists_merged hs hne
  obtain ⟨hearlier, -, hcross⟩ := List.pairwise_append.1 hfresh
  obtain ⟨hnone, hfold⟩ := hone.textures_eq ht
  obtain ⟨-, hleft, hshown⟩ := Surface.present_ok hok
  obtain ⟨-, hleft', hshown'⟩ := Surface.present_draw_ok hnone hlast
  refine ⟨?_, ?_, fun frame hframe => ?_⟩
  · rw [hleft, hleft', hpending, Surface.textures_drawAll, hfold, ← htextures]
    show s.textures.afterPaint merged = _
    rw [hmerged.afterPaint hfresh, List.foldl_append]
    rfl
  · obtain ⟨last', hlast', hprimitives, hscale⟩ := hmerged.exists_getLast?
    rw [List.getLast?_concat] at hlast'
    obtain rfl := Option.some.inj hlast'
    refine ⟨s.textures.duringPaint merged, t'.textures.duringPaint last, ?_, hshown',
      fun name hname => ?_⟩
    · rw [hshown, hpending, Surface.painting_drawAll, ← hprimitives, ← hscale]
      rfl
    · rw [hfold, ← htextures]
      refine hmerged.duringPaint hearlier (fun a ha hfree => ?_) s.textures
      exact hcross a ha last (List.mem_singleton_self last) name hfree (.inr hname)
  · rw [hpending, hmerged.unique hframe]

/-- A surface with nothing on it, with those answers to its next requests for a texture. -/
def bare (acquires : List Acquire) : Surface (List Nat) Nat String :=
  (Surface.built { acquires } ⟨1, 1⟩ false).prepare

/-- Two textures are made and the second one is dropped; the first one and a third one are then
painted on in parts, and the third one is dropped with the last frame that is painted with it. -/
def sketches : List (Painted (List Nat) Nat String) :=
  [⟨[0, 1], [⟨0, true, "page"⟩, ⟨1, true, "icon"⟩], [], 1⟩,
    ⟨[0, 2], [⟨0, false, "a"⟩, ⟨2, true, "map"⟩], [1], 1⟩]

def lastSketch : Painted (List Nat) Nat String :=
  ⟨[0, 2], [⟨2, false, "b"⟩, ⟨0, false, "c"⟩], [2], 2⟩

/-- The surface after the sketches but the last one were presented one by one. -/
def sketched : Surface (List Nat) Nat String :=
  sketches.foldl (fun s frame => (s.draw frame).present.2) (bare [])

theorem present_merged_sketches :
    ((bare [.lost, .good]).drawAll (sketches ++ [lastSketch])).present.2.textures =
        (sketched.draw lastSketch).present.2.textures ∧
      (∃ during, ((bare [.lost, .good]).drawAll (sketches ++ [lastSketch])).present.2.shown =
          some ⟨[0, 2], ⟨1, 1⟩, 2, during⟩ ∧
        during 0 = some ["page", "a", "c"] ∧ during 2 = some ["map", "b"]) ∧
      (sketched.draw lastSketch).present.2.textures 0 = some ["page", "a", "c"] ∧
      (sketched.draw lastSketch).present.2.textures 1 = none ∧
      sketched.textures 2 = some ["map"] ∧
      (sketched.draw lastSketch).present.2.textures 2 = none := by
  have hfresh : NeverReused (fun names name => name ∈ names) (sketches ++ [lastSketch]) := by
    decide
  have hone : Surface.OneByOne (bare []) sketches sketched := .cons rfl (.cons rfl .nil)
  obtain ⟨hsame, ⟨during, during', hshown, hshown', hduring⟩, -⟩ :=
    present_merged hfresh (s := bare [.lost, .good]) (t := bare []) rfl rfl rfl hone rfl rfl
  obtain rfl : _ = during' := congrArg Painting.textures (Option.some.inj hshown')
  refine ⟨hsame, ⟨during, hshown, ?_, ?_⟩, rfl, rfl, rfl, rfl⟩
  · exact hduring 0 (by decide)
  · exact hduring 2 (by decide)

end Native

end WindowHost
