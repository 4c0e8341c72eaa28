import Mathlib.Data.List.Induction
import WindowHost.Proofs.TextureFlow

/-!
# What becomes of changes of textures

The renderer needs every change of a texture that the widgets give out, since later changes build on
it. An `Account` follows what was given out through the moves of a run: it waits at the surface, it
was painted, or it was lost with a frame that could not be presented or that nothing had drawn. Main
statement: the account of a run is what its window shows, and changes are lost exactly by an attempt
to present that fails while they wait, and by the beginning of a frame that closes one which a
sub-window has opened after the last drawing.
-/

namespace WindowHost.Native

open Gui (Frame Painted Textures TextureUpdate Toolkit)
open Window

variable {T In P N C : Type}

/-! ## Changes -/

/-- A change of the renderer's textures. -/
inductive TextureChange (N C : Type) where
  | update (u : TextureUpdate N C)
  | drop (name : N)

namespace TextureChange

def update? : TextureChange N C → Option (TextureUpdate N C)
  | .update u => some u
  | .drop _ => none

def drop? : TextureChange N C → Option N
  | .update _ => none
  | .drop name => some name

def apply [DecidableEq N] (t : Textures N C) : TextureChange N C → Textures N C
  | .update u => t.update u
  | .drop name => t.drop name

end TextureChange

/-- The changes of frames that are painted as one: all updates, and then all drops. -/
def changesOf (frames : List (Painted P N C)) : List (TextureChange N C) :=
  (frames.flatMap Frame.set).map .update ++ (frames.flatMap Frame.free).map .drop

section Changes

variable (frames : List (Painted P N C))

theorem filterMap_update?_changesOf :
    (changesOf frames).filterMap TextureChange.update? = frames.flatMap Frame.set := by
  rw [changesOf, List.filterMap_append, List.filterMap_map, List.filterMap_map]
  simp [Function.comp_def, TextureChange.update?]

theorem filterMap_drop?_changesOf :
    (changesOf frames).filterMap TextureChange.drop? = frames.flatMap Frame.free := by
  rw [changesOf, List.filterMap_append, List.filterMap_map, List.filterMap_map]
  simp [Function.comp_def, TextureChange.drop?]

variable [DecidableEq N]

/-- Painting makes the changes of the frame. -/
theorem afterPaint_eq (t : Textures N C) (frame : Painted P N C) :
    t.afterPaint frame = (changesOf [frame]).foldl TextureChange.apply t := by
  rw [changesOf, List.foldl_append, List.foldl_map, List.foldl_map, List.flatMap_singleton,
    List.flatMap_singleton]
  rfl

end Changes

/-! ## Accounts -/

/-- What has become of a frame of the widgets that has ended. -/
inductive Fate where
  /-- It was drawn and waits to be presented. -/
  | held
  | painted
  /-- It was drawn, and an attempt to present it has failed. -/
  | refused
  /-- It was closed when the next frame began, and not drawn. -/
  | abandoned
  deriving DecidableEq, Repr

/-- What a frame of the widgets gave out, and what has become of it. -/
structure Emission (P N C : Type) where
  frame : Painted P N C
  fate : Fate

/-- An attempt to present decides on what waits. -/
def Emission.settle (ok : Bool) (e : Emission P N C) : Emission P N C :=
  if e.fate = .held then { e with fate := if ok then .painted else .refused } else e

/-- Whether changes of textures were dropped with a frame. -/
def Emission.Lost (e : Emission P N C) : Prop :=
  (e.fate = .refused ∨ e.fate = .abandoned) ∧ changesOf [e.frame] ≠ []

/-- All that the widgets have given out, in the order in which their frames ended, and the changes
that were made to the renderer's textures, in their order. -/
structure Account (P N C : Type) where
  emissions : List (Emission P N C) := []
  made : List (TextureChange N C) := []

namespace Account

/-- The frames of that fate, in the order in which they ended. -/
def framesOf (c : Account P N C) (fate : Fate) : List (Painted P N C) :=
  (c.emissions.filter fun e => e.fate = fate).map Emission.frame

def move (c : Account P N C) : FlowMove P N C → Account P N C
  | .drawn frame => { c with emissions := c.emissions ++ [⟨frame, .held⟩] }
  | .presented ok =>
    { emissions := c.emissions.map (Emission.settle ok)
      made := if ok then c.made ++ changesOf (c.framesOf .held) else c.made }
  | .turned left =>
    { c with emissions := c.emissions ++ left.toList.map fun frame => ⟨frame, .abandoned⟩ }
  | .reopened => c

/-- The account is what the flow of textures shows: what was given out, what waits, and how the
textures have come about. Each frame that was painted has had its updates and its drops once, and in
the order of the frames. -/
structure Fits [DecidableEq N] (c : Account P N C) (flow : Flow P N C) : Prop where
  emitted : flow.emitted = c.emissions.map Emission.frame
  updatesHeld : flow.pending.toList.flatMap Frame.set = (c.framesOf .held).flatMap Frame.set
  dropsHeld : flow.pending.toList.flatMap Frame.free = (c.framesOf .held).flatMap Frame.free
  textures : flow.textures = c.made.foldl TextureChange.apply Textures.none
  updatesMade : c.made.filterMap TextureChange.update? =
    (c.framesOf .painted).flatMap Frame.set
  dropsMade : c.made.filterMap TextureChange.drop? = (c.framesOf .painted).flatMap Frame.free

/-- What waits has ended after all that was presented. -/
def Ordered (c : Account P N C) : Prop :=
  ∃ old new, c.emissions = old ++ new ∧ (∀ e ∈ old, e.fate ≠ .held) ∧
    ∀ e ∈ new, e.fate = .held ∨ e.fate = .abandoned

section Frames

variable (emissions emissions' : List (Emission P N C)) (made made' : List (TextureChange N C))

theorem framesOf_append (fate : Fate) :
    framesOf ⟨emissions ++ emissions', made⟩ fate =
      framesOf ⟨emissions, made'⟩ fate ++ framesOf ⟨emissions', made'⟩ fate := by
  simp only [framesOf, List.filter_append, List.map_append]

theorem framesOf_single (e : Emission P N C) (fate : Fate) :
    framesOf ⟨[e], made⟩ fate = if e.fate = fate then [e.frame] else [] := by
  by_cases h : e.fate = fate <;> simp [framesOf, h]

theorem settle_frame (ok : Bool) (e : Emission P N C) : (e.settle ok).frame = e.frame := by
  unfold Emission.settle
  split <;> rfl

theorem settle_fate (ok : Bool) (e : Emission P N C) :
    (e.settle ok).fate =
      if e.fate = .held then (if ok then Fate.painted else .refused) else e.fate := by
  unfold Emission.settle
  split <;> rfl

theorem framesOf_settle (ok : Bool) (fate : Fate) :
    framesOf ⟨emissions.map (Emission.settle ok), made⟩ fate =
      (emissions.filter fun e => (e.settle ok).fate = fate).map Emission.frame := by
  simp only [framesOf, List.filter_map, List.map_map]
  refine List.map_congr_left fun e _ => settle_frame ok e

theorem framesOf_settle_held (ok : Bool) :
    framesOf ⟨emissions.map (Emission.settle ok), made⟩ .held = [] := by
  rw [framesOf_settle, List.filter_eq_nil_iff.2, List.map_nil]
  intro e _
  rw [settle_fate]
  rcases ok with _ | _ <;> by_cases h : e.fate = .held <;> simp [h]

theorem framesOf_settle_false :
    framesOf ⟨emissions.map (Emission.settle false), made⟩ .painted =
      framesOf ⟨emissions, made⟩ .painted := by
  rw [framesOf_settle]
  congr 1
  refine List.filter_congr fun e _ => ?_
  rw [settle_fate]
  by_cases h : e.fate = .held <;> simp [h]

/-- What waits has ended after all that was painted, and so it is painted after that. -/
theorem Ordered.framesOf_settle_true {c : Account P N C} (hc : c.Ordered) :
    framesOf ⟨c.emissions.map (Emission.settle true), made⟩ .painted =
      c.framesOf .painted ++ c.framesOf .held := by
  obtain ⟨old, new, hsplit, hold, hnew⟩ := hc
  have hpainted (e : Emission P N C) :
      (e.settle true).fate = .painted ↔ e.fate = .painted ∨ e.fate = .held := by
    rw [settle_fate]
    by_cases h : e.fate = .held <;> simp [h]
  have hfirst : (old.filter fun e => (e.settle true).fate = .painted) =
      old.filter fun e => e.fate = .painted := by
    refine List.filter_congr fun e he => ?_
    simp [hpainted, hold e he]
  have hlast : (new.filter fun e => (e.settle true).fate = .painted) =
      new.filter fun e => e.fate = .held := by
    refine List.filter_congr fun e he => ?_
    rcases hnew e he with h | h <;> simp [hpainted, h]
  have holdHeld : (old.filter fun e => e.fate = .held) = [] :=
    List.filter_eq_nil_iff.2 fun e he => by simp [hold e he]
  have hnewPainted : (new.filter fun e => e.fate = .painted) = [] :=
    List.filter_eq_nil_iff.2 fun e he => by rcases hnew e he with h | h <;> simp [h]
  rw [framesOf_settle]
  simp only [framesOf, hsplit, List.filter_append, hfirst, hlast, holdHeld, hnewPainted,
    List.append_nil, List.nil_append, List.map_append]

end Frames

/-! ### Moves -/

theorem Ordered.move {c : Account P N C} (hc : c.Ordered) (m : FlowMove P N C) :
    (c.move m).Ordered := by
  obtain ⟨old, new, hsplit, hold, hnew⟩ := hc
  cases m with
  | drawn frame =>
    refine ⟨old, new ++ [⟨frame, .held⟩], ?_, hold, ?_⟩
    · rw [← List.append_assoc, ← hsplit]
      rfl
    · intro e he
      rcases List.mem_append.1 he with he | he
      · exact hnew e he
      · obtain rfl := List.mem_singleton.1 he
        exact .inl rfl
  | presented ok =>
    refine ⟨c.emissions.map (Emission.settle ok), [], (List.append_nil _).symm, ?_, nofun⟩
    intro e he
    obtain ⟨e, -, rfl⟩ := List.mem_map.1 he
    rw [settle_fate]
    rcases ok with _ | _ <;> by_cases h : e.fate = .held <;> simp [h]
  | turned left =>
    refine ⟨old, new ++ left.toList.map fun frame => ⟨frame, .abandoned⟩, ?_, hold, ?_⟩
    · rw [← List.append_assoc, ← hsplit]
      rfl
    · intro e he
      rcases List.mem_append.1 he with he | he
      · exact hnew e he
      · obtain ⟨frame, -, rfl⟩ := List.mem_map.1 he
        exact .inr rfl
  | reopened => exact ⟨old, new, hsplit, hold, hnew⟩

section Moves

variable [DecidableEq N] {c : Account P N C} {flow : Flow P N C}

theorem Fits.drawn (h : c.Fits flow) (frame : Painted P N C) :
    (c.move (.drawn frame)).Fits (flow.move (.drawn frame)) := by
  have hframes (fate : Fate) : (c.move (.drawn frame)).framesOf fate =
      c.framesOf fate ++ if Fate.held = fate then [frame] else [] :=
    (framesOf_append c.emissions _ c.made c.made fate).trans
      (congrArg _ (framesOf_single c.made ⟨frame, .held⟩ fate))
  refine ⟨?_, ?_, ?_, h.textures, ?_, ?_⟩
  · simp [Flow.move, Account.move, h.emitted]
  · rw [hframes, if_pos rfl, List.flatMap_append, ← h.updatesHeld]
    rcases hpending : flow.pending with _ | pending <;>
      simp [Flow.move, hpending, Frame.merge]
  · rw [hframes, if_pos rfl, List.flatMap_append, ← h.dropsHeld]
    rcases hpending : flow.pending with _ | pending <;>
      simp [Flow.move, hpending, Frame.merge]
  · rw [hframes, if_neg (by decide), List.append_nil]
    exact h.updatesMade
  · rw [hframes, if_neg (by decide), List.append_nil]
    exact h.dropsMade

theorem Fits.turned (h : c.Fits flow) (left : Option (Painted P N C)) :
    (c.move (.turned left)).Fits (flow.move (.turned left)) := by
  have hframes (fate : Fate) (hfate : fate ≠ .abandoned) :
      (c.move (.turned left)).framesOf fate = c.framesOf fate := by
    refine (framesOf_append c.emissions _ c.made c.made fate).trans ?_
    rcases left with _ | frame
    · exact List.append_nil _
    · refine (congrArg _ (framesOf_single c.made ⟨frame, .abandoned⟩ fate)).trans ?_
      rw [if_neg hfate.symm, List.append_nil]
  refine ⟨?_, ?_, ?_, h.textures, ?_, ?_⟩
  · simp [Flow.move, Account.move, h.emitted, Function.comp_def]
  · rw [hframes .held (by decide)]
    exact h.updatesHeld
  · rw [hframes .held (by decide)]
    exact h.dropsHeld
  · rw [hframes .painted (by decide)]
    exact h.updatesMade
  · rw [hframes .painted (by decide)]
    exact h.dropsMade

theorem Fits.presented (h : c.Fits flow) (hc : c.Ordered) (ok : Bool) :
    (c.move (.presented ok)).Fits (flow.move (.presented ok)) := by
  have hheld : (c.move (.presented ok)).framesOf .held = [] := framesOf_settle_held c.emissions _ ok
  have hemitted : c.emissions.map Emission.frame =
      (c.emissions.map (Emission.settle ok)).map Emission.frame := by
    rw [List.map_map]
    exact (List.map_congr_left fun e _ => settle_frame ok e).symm
  have hupdates : ([] : List (TextureUpdate N C)) =
      ((c.move (.presented ok)).framesOf .held).flatMap Frame.set := by rw [hheld]; rfl
  have hdrops : ([] : List N) =
      ((c.move (.presented ok)).framesOf .held).flatMap Frame.free := by rw [hheld]; rfl
  rcases ok with _ | _
  · have hpainted : (c.move (.presented false)).framesOf .painted = c.framesOf .painted :=
      framesOf_settle_false c.emissions c.made
    refine ⟨h.emitted.trans hemitted, hupdates, hdrops, h.textures, ?_, ?_⟩
    · rw [hpainted]
      exact h.updatesMade
    · rw [hpainted]
      exact h.dropsMade
  · -- what waits joins the painted frames behind all of them, just as its changes are made last
    have hpainted : (c.move (.presented true)).framesOf .painted =
        c.framesOf .painted ++ c.framesOf .held := hc.framesOf_settle_true _
    have hwaiting : changesOf flow.pending.toList = changesOf (c.framesOf .held) := by
      rw [changesOf, changesOf, h.updatesHeld, h.dropsHeld]
    refine ⟨h.emitted.trans hemitted, hupdates, hdrops, ?_, ?_, ?_⟩
    · show flow.pending.elim flow.textures flow.textures.afterPaint =
        (c.made ++ changesOf (c.framesOf .held)).foldl TextureChange.apply Textures.none
      rw [List.foldl_append, ← h.textures, ← hwaiting]
      rcases flow.pending with _ | frame
      · rfl
      · exact afterPaint_eq flow.textures frame
    · show (c.made ++ changesOf (c.framesOf .held)).filterMap TextureChange.update? = _
      rw [hpainted, List.filterMap_append, filterMap_update?_changesOf, h.updatesMade,
        List.flatMap_append]
    · show (c.made ++ changesOf (c.framesOf .held)).filterMap TextureChange.drop? = _
      rw [hpainted, List.filterMap_append, filterMap_drop?_changesOf, h.dropsMade,
        List.flatMap_append]

theorem Fits.move (h : c.Fits flow) (hc : c.Ordered) (m : FlowMove P N C) :
    (c.move m).Fits (flow.move m) := by
  cases m with
  | drawn frame => exact h.drawn frame
  | presented ok => exact h.presented hc ok
  | turned left => exact h.turned left
  | reopened =>
    exact ⟨h.emitted, h.updatesHeld, h.dropsHeld, h.textures, h.updatesMade, h.dropsMade⟩

end Moves

end Account

/-- The account of a run of moves. -/
def account (moves : List (FlowMove P N C)) : Account P N C := moves.foldl Account.move {}

theorem account_concat (moves : List (FlowMove P N C)) (m : FlowMove P N C) :
    account (moves ++ [m]) = (account moves).move m := by
  rw [account, List.foldl_append]
  rfl

theorem account_ordered (moves : List (FlowMove P N C)) : (account moves).Ordered := by
  induction moves using List.reverseRecOn with
  | nil => exact ⟨[], [], rfl, nofun, nofun⟩
  | append_singleton moves m ih =>
    rw [account_concat]
    exact ih.move m

/-- The account of moves fits the flow that they lead to. -/
theorem account_fits [DecidableEq N] (moves : List (FlowMove P N C)) :
    (account moves).Fits (moves.foldl Flow.move {}) := by
  induction moves using List.reverseRecOn with
  | nil => exact ⟨rfl, rfl, rfl, rfl, rfl, rfl⟩
  | append_singleton moves m ih =>
    rw [account_concat, List.foldl_append]
    exact ih.move (account_ordered moves) m

/-! ## Losses -/

/-- Whether a move drops changes of textures, where `c` is the account before it. -/
def FlowMove.Loses (c : Account P N C) : FlowMove P N C → Prop
  | .presented ok => ok = false ∧ ∃ frame ∈ c.framesOf .held, changesOf [frame] ≠ []
  | .turned left => ∃ frame, left = some frame ∧ changesOf [frame] ≠ []
  | .drawn _ | .reopened => False

theorem Account.mem_framesOf {c : Account P N C} {fate : Fate} {frame : Painted P N C} :
    frame ∈ c.framesOf fate ↔ ⟨frame, fate⟩ ∈ c.emissions := by
  simp only [framesOf, List.mem_map, List.mem_filter, decide_eq_true_eq]
  constructor
  · rintro ⟨e, ⟨he, rfl⟩, rfl⟩
    exact he
  · intro h
    exact ⟨_, ⟨h, rfl⟩, rfl⟩

theorem Emission.settle_lost (ok : Bool) (e : Emission P N C) :
    (e.settle ok).Lost ↔ e.Lost ∨ ok = false ∧ e.fate = .held ∧ changesOf [e.frame] ≠ [] := by
  rw [Lost, Account.settle_fate, Account.settle_frame, Lost]
  by_cases hheld : e.fate = .held
  · rcases ok with _ | _ <;> simp [hheld]
  · simp [hheld]

/-- What a move drops is lost, and what was lost before stays so. -/
theorem exists_lost_move (c : Account P N C) (m : FlowMove P N C) :
    (∃ e ∈ (c.move m).emissions, e.Lost) ↔ (∃ e ∈ c.emissions, e.Lost) ∨ m.Loses c := by
  cases m with
  | drawn frame => simp [Account.move, FlowMove.Loses, Emission.Lost, or_and_right, exists_or]
  | presented ok =>
    have hlost : (∃ e ∈ c.emissions.map (Emission.settle ok), e.Lost) ↔
        (∃ e ∈ c.emissions, e.Lost) ∨
          ∃ e ∈ c.emissions, ok = false ∧ e.fate = .held ∧ changesOf [e.frame] ≠ [] := by
      simp only [List.mem_map, exists_exists_and_eq_and, Emission.settle_lost, and_or_left,
        exists_or]
    refine hlost.trans (or_congr_right ?_)
    constructor
    · rintro ⟨⟨frame, fate⟩, he, rfl, rfl, hchanges⟩
      exact ⟨rfl, frame, Account.mem_framesOf.2 he, hchanges⟩
    · rintro ⟨rfl, frame, hframe, hchanges⟩
      exact ⟨⟨frame, .held⟩, Account.mem_framesOf.1 hframe, rfl, rfl, hchanges⟩
  | turned left =>
    rcases left with _ | frame <;>
      simp [Account.move, FlowMove.Loses, Emission.Lost, or_and_right, exists_or]
  | reopened => simp [Account.move, FlowMove.Loses]

/-- Changes are lost exactly by the moves that drop some. -/
theorem exists_lost_iff (moves : List (FlowMove P N C)) :
    (∃ e ∈ (account moves).emissions, e.Lost) ↔
      ∃ before m, before ++ [m] <+: moves ∧ m.Loses (account before) := by
  induction moves using List.reverseRecOn with
  | nil => simp [account]
  | append_singleton moves m ih =>
    rw [account_concat, exists_lost_move, ih]
    simp only [List.prefix_concat_iff, or_and_right, exists_or]
    rw [or_comm]
    refine or_congr_left ⟨fun h => ⟨moves, m, rfl, h⟩, ?_⟩
    rintro ⟨before, m', hsplit, h⟩
    obtain ⟨rfl, hlast⟩ := List.append_inj' hsplit rfl
    obtain rfl := List.head_eq_of_cons_eq hlast
    exact h

/-! ## Frames that are left open -/

/-- After a frame of the widgets was drawn another one was opened, and it is open still. -/
def ReopenedLast (moves : List (FlowMove P N C)) : Prop :=
  ∃ earlier later, moves = earlier ++ .reopened :: later ∧ ∀ m ∈ later, ∃ ok, m = .presented ok

theorem reopenedLast_concat (moves : List (FlowMove P N C)) (m : FlowMove P N C) :
    ReopenedLast (moves ++ [m]) ↔
      m = .reopened ∨ (∃ ok, m = .presented ok) ∧ ReopenedLast moves := by
  refine (exists_split_concat (Q := fun (_ later : List (FlowMove P N C)) =>
    ∀ m ∈ later, ∃ ok, m = .presented ok)).trans (or_congr ?_ ?_)
  · exact ⟨And.left, fun h => ⟨h, nofun⟩⟩
  · constructor
    · rintro ⟨earlier, later, hsplit, hlater⟩
      obtain ⟨hlater, hm⟩ := List.forall_mem_append.1 hlater
      exact ⟨hm m (.head _), earlier, later, hsplit, hlater⟩
    · rintro ⟨hm, earlier, later, hsplit, hlater⟩
      exact ⟨earlier, later, hsplit,
        List.forall_mem_append.2 ⟨hlater, List.forall_mem_singleton.2 hm⟩⟩

/-- While the frame at hand counts as drawn, a frame of the widgets is open exactly if it was opened
after that. -/
theorem frameOpen_iff [DecidableEq N] (moves : List (FlowMove P N C))
    (hdrawn : (moves.foldl Flow.move {}).drawn = true) :
    (moves.foldl Flow.move {}).frameOpen = true ↔ ReopenedLast moves := by
  induction moves using List.reverseRecOn with
  | nil => cases hdrawn
  | append_singleton moves m ih =>
    rw [List.foldl_append] at hdrawn ⊢
    rw [reopenedLast_concat]
    cases m with
    | drawn frame => simp [Flow.move]
    | presented ok =>
      -- presenting alone leaves both the flag and the frame of the widgets as they are
      have hopen := ih hdrawn
      simpa [Flow.move] using hopen
    | turned left => cases hdrawn
    | reopened => simp [Flow.move]

/-! ## Runs -/

section Runs

variable [DecidableEq N] {k : Toolkit T In P N C} {toolkit : T} {config : Config}
  {display : Display} {gpu : Gpu} {moves : List (FlowMove P N C)} {s : TexturedWindow T P N C}

/-- When a frame begins, the widgets have one to be closed exactly if it was opened after the last
one was drawn. -/
theorem Supplied.left_isSome_iff (h : Supplied k toolkit config display gpu moves s)
    {before : List (FlowMove P N C)} {left : Option (Painted P N C)}
    (hbefore : before ++ [.turned left] <+: moves) :
    left.isSome = true ↔ ReopenedLast before := by
  obtain ⟨later, rfl, hleads⟩ := h.leads
  cases before with
  | nil =>
    obtain ⟨hleft, -⟩ := List.cons_prefix_cons.1 hbefore
    cases hleft
    refine ⟨nofun, ?_⟩
    rintro ⟨earlier, later, hsplit, -⟩
    cases earlier <;> cases hsplit
  | cons m before =>
    obtain ⟨rfl, htail⟩ := List.cons_prefix_cons.1 hbefore
    obtain ⟨hdrawn, hleft⟩ := hleads.allows htail
    rw [hleft]
    exact frameOpen_iff (.turned none :: before) hdrawn

/-- In every run of a window on a desktop, visible or not, with shows that fail and are tried again,
all that the widgets give out is on account: it waits at the surface, or it was painted once and in
the order in which it was given out, or it is lost. Changes are lost exactly by an attempt to
present that fails while they wait, and by the beginning of a frame that closes a frame of the
widgets with changes. There is one to be closed exactly if a sub-window has opened it after the
frame at hand was drawn. -/
theorem texture_changes_accounted (h : Supplied k toolkit config display gpu moves s) :
    (account moves).Fits (flowOf s) ∧
      ((∃ e ∈ (account moves).emissions, e.Lost) ↔
        ∃ before m, before ++ [m] <+: moves ∧ m.Loses (account before)) ∧
      ∀ before left, before ++ [.turned left] <+: moves →
        (left.isSome = true ↔ ReopenedLast before) := by
  refine ⟨?_, exists_lost_iff moves, fun before left => h.left_isSome_iff⟩
  rw [h.flowOf_eq]
  exact account_fits moves

end Runs

/-! ## Changes that are lost -/

/-- Widgets that use a texture once a sub-window was declared. -/
def glyphToolkit : Toolkit Bool Unit Unit Unit Unit where
  onEvent _ t := t
  takeInput _ t := ((), t)
  beginFrame _ t := t
  endFrame t := ((.default, ⟨(), if t then [⟨(), true, ()⟩] else [], [], 1⟩), false)
  wantsMouse _ := false
  wantsKeyboard _ := false
  declare _ cache _ := ([], cache, true)

/-- A frame in which a texture is made. -/
def glyphFrame : Painted Unit Unit Unit := ⟨(), [⟨(), true, ()⟩], [], 1⟩

def glyphPane : Gui.SubWindow := ⟨"glyphs", (0, 0), (1, 1), []⟩

def declareGlyphs : Operation (TexturedDesktop Bool Unit Unit Unit) :=
  .outside fun w => (w.subWindow glyphToolkit.recorded glyphPane).2

theorem admitted_declareGlyphs : Admitted declareGlyphs :=
  admitted_subWindow glyphToolkit glyphPane

/-- A sub-window is declared after the frame at hand was drawn, and a read ends the frame. -/
def abandonedMoves : List (FlowMove Unit Unit Unit) :=
  [.turned none, .drawn ⟨(), [], [], 1⟩, .reopened, .turned (some glyphFrame)]

/-- In a window that is never shown, changes are lost with a frame of the widgets that a read has
closed. -/
theorem texture_changes_accounted_abandoned : ∃ s : TexturedWindow Bool Unit Unit Unit,
    Supplied glyphToolkit false { showWindow := false, size := ⟨1, 1⟩ } {} {} abandonedMoves s ∧
      s.world.gui.toolkit.2.flatMap Frame.set = [⟨(), true, ()⟩] ∧
      ∃ e ∈ (account abandonedMoves).emissions, e.Lost := by
  obtain ⟨s₀, s₁, s₂, s₃, hlaunch, hdraw, hdeclare, hread, h₁, h₂, h₃⟩ :
      ∃ s₀ s₁ s₂ s₃ : TexturedWindow Bool Unit Unit Unit,
      (Desktop.launch glyphToolkit.recorded (false, []) { showWindow := false, size := ⟨1, 1⟩ } {}
        {}).outcome = .ok s₀ ∧
      exec (Operation.drawFrame.perform (Desktop.devices glyphToolkit.recorded)) s₀ =
        (.ok .done, s₁) ∧
      exec (declareGlyphs.perform (Desktop.devices glyphToolkit.recorded)) s₁ = (.ok .done, s₂) ∧
      exec (Operation.dumpImage.perform (Desktop.devices glyphToolkit.recorded)) s₂ =
        (.ok (.picture s₂.world.surface.dump), s₃) ∧
      flowMoves glyphToolkit .drawFrame s₀ s₁ true = [.drawn ⟨(), [], [], 1⟩] ∧
      flowMoves glyphToolkit declareGlyphs s₁ s₂ true = [.reopened] ∧
      flowMoves glyphToolkit .dumpImage s₂ s₃ true = [.turned (some glyphFrame)] :=
    ⟨_, _, _, _, rfl, rfl, rfl, rfl, rfl, rfl, rfl⟩
  have hopened := Supplied.opened hlaunch
  have hdrawn := hopened.next_moves .drawFrame (.ok .done) trivial hdraw h₁
  have hdeclared := hdrawn.next_moves declareGlyphs (.ok .done) admitted_declareGlyphs hdeclare h₂
  have h := hdeclared.next_moves .dumpImage (.ok _) trivial hread h₃
  obtain ⟨hfits, hlost, -⟩ := texture_changes_accounted h
  refine ⟨s₃, h, ?_, hlost.2 ⟨_, .turned (some glyphFrame), List.prefix_rfl, glyphFrame, rfl, ?_⟩⟩
  · have hemitted := hfits.emitted
    exact congrArg (List.flatMap Frame.set) hemitted
  · exact List.cons_ne_nil _ _

/-- A frame is drawn but cannot be presented, and then the show is tried again. -/
def refusedMoves : List (FlowMove Unit Unit Unit) :=
  [.turned none, .drawn glyphFrame, .presented false, .presented true, .turned none]

/-- A show succeeds after one that could not present. The change of a texture that the widgets have
given out between them is nowhere: it does not wait, and there are no textures. -/
theorem texture_update_lost : ∃ s s' : TexturedWindow Bool Unit Unit Unit,
    Supplied glyphToolkit false { size := ⟨1, 1⟩ } {} { acquires := [.lost, .lost] } refusedMoves
        s' ∧
      exec (Operation.perform (Desktop.devices glyphToolkit.recorded) .showFrame) s =
        (.ok .done, s') ∧
      s'.world.gui.toolkit.2.flatMap Frame.set = [⟨(), true, ()⟩] ∧
      s'.world.surface.pending = none ∧ s'.world.surface.textures = Textures.none := by
  obtain ⟨s₀, s₁, s₂, hlaunch, hdeclare, hrefused, h₁, h₂, hdrawn, hopen, hgrants, houtlook⟩ :
      ∃ s₀ s₁ s₂ : TexturedWindow Bool Unit Unit Unit,
      (Desktop.launch glyphToolkit.recorded (false, []) { size := ⟨1, 1⟩ } {}
        { acquires := [.lost, .lost] }).outcome = .ok s₀ ∧
      exec (declareGlyphs.perform (Desktop.devices glyphToolkit.recorded)) s₀ = (.ok .done, s₁) ∧
      exec (Operation.perform (Desktop.devices glyphToolkit.recorded) .showFrame) s₁ =
        (.error (.failed (.backend (.surface SurfaceFault.notAcquired.message))), s₂) ∧
      flowMoves glyphToolkit declareGlyphs s₀ s₁ true = [] ∧
      flowMoves glyphToolkit .showFrame s₁ s₂ false = [.drawn glyphFrame, .presented false] ∧
      s₂.drawn = true ∧ s₂.world.gui.frameOpen = false ∧ s₂.world.surface.grants = true ∧
      outlook s₂ = ⟨true, [], [], false⟩ :=
    ⟨_, _, _, rfl, rfl, rfl, rfl, rfl, rfl, rfl, rfl, rfl⟩
  have hopened := Supplied.opened hlaunch
  have hdeclared := hopened.next_moves declareGlyphs (.ok .done) admitted_declareGlyphs hdeclare h₁
  have h := hdeclared.next_moves .showFrame (.error _) trivial hrefused h₂
  -- a show that succeeds counts the frame rate in floats, which do not evaluate in a proof
  obtain ⟨world, hreached⟩ := h.reached
  obtain ⟨s₃, hshow, -⟩ := exec_showFrame_calm glyphToolkit.recorded hreached.wired houtlook nofun
  have h₃ : flowMoves glyphToolkit .showFrame s₂ s₃ true = [.presented true, .turned none] := by
    have hshown : s₂.config.showWindow = true := congrArg Outlook.shown houtlook
    simp only [flowMoves, showFlow, drawnMoves, turnedMove, leftover, hshown, hdrawn, hopen,
      hgrants, Bool.and_false, if_pos]
    rfl
  have hlast := h.next_moves .showFrame (.ok .done) trivial hshow h₃
  have hflow := hlast.flowOf_eq
  exact ⟨s₂, s₃, hlast, hshow, congrArg (fun flow => flow.emitted.flatMap Frame.set) hflow,
    congrArg Flow.pending hflow, congrArg Flow.textures hflow⟩

end WindowHost.Native
