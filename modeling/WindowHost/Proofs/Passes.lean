import WindowHost.Native.Desktop
import WindowHost.Proofs.Mirror
import WindowHost.Proofs.NativeCursor
import WindowHost.Proofs.Size

/-!
# Passes of a toolkit

A toolkit takes the input of a frame, begins the frame and ends it, in this order and each time
anew. Its embedding opens a frame wherever one is needed and closes it at different places, and a
host may ask for these in any order. `Toolkit.watched` keeps a record of the steps, and `Balanced`
says that they make up whole passes, the last of which may be open. A window asks its widgets for
nothing but what anybody may ask for (`Course.asks`), so this holds in every course of a window.
-/

namespace WindowHost

namespace Gui

variable {T In P N C : Type}

/-! ## What is asked of embedded widgets -/

/-- What can be asked of embedded widgets, in a window of a size where that matters. -/
inductive Ask where
  | event (e : Native.DisplayEvent)
  | declare (size : Extent) (sub : SubWindow)
  | endFrame (size : Extent)
  | prepare (size : Extent)
  | suppress (value : Bool)
  | reclaim

/-- Whether a frame is open after it was asked for, unless that leaves frames alone. -/
def Ask.leavesOpen? : Ask → Option Bool
  | .declare .. | .prepare _ => some true
  | .endFrame _ => some false
  | .event _ | .suppress _ | .reclaim => none

namespace Embedded

def after (k : Toolkit T In P N C) (g : Embedded T) : Ask → Embedded T
  | .event e => g.onEvent k e
  | .declare size sub => (g.declare k size sub).2
  | .endFrame size => (g.endFrame k size).2
  | .prepare size => g.prepare k size
  | .suppress value => { g with suppressed := value }
  | .reclaim => { g with forwarding := g.forwarding.reclaim }

/-- New widgets after all that was asked of them. -/
def run (k : Toolkit T In P N C) (toolkit : T) (asks : List Ask) : Embedded T :=
  asks.foldl (after k) { toolkit }

end Embedded

/-! ## The steps of a toolkit -/

/-- A step of a pass, with the input of the frame. -/
inductive Pass (In : Type) where
  | took (input : In)
  | began (input : In)
  | ended
  deriving DecidableEq, Repr

namespace Pass

/-- The input that a step takes. -/
def taken? : Pass In → Option In
  | .took input => some input
  | _ => none

/-- The input that a step begins a frame with. -/
def begun? : Pass In → Option In
  | .began input => some input
  | _ => none

/-- Whether a step begins a frame, or ends one. -/
def edge? : Pass In → Option Bool
  | .began _ => some true
  | .ended => some false
  | .took _ => none

/-- The steps with which a frame is opened. -/
def opening (input : In) : List (Pass In) := [.took input, .began input]

/-- The steps of frames that were opened with these inputs and ended, and of a last one that is
open, if there is one. -/
def whole (closed : List In) (last : Option In) : List (Pass In) :=
  closed.flatMap (fun input => opening input ++ [.ended]) ++ last.elim [] opening

theorem whole_open (closed : List In) (input : In) :
    whole closed (some input) = whole closed none ++ opening input := by
  simp [whole]

theorem whole_close (closed : List In) (input : In) :
    whole (closed ++ [input]) none = whole closed (some input) ++ [.ended] := by
  simp [whole]

end Pass

/-- A toolkit that keeps a record of its steps. -/
def Toolkit.watched (k : Toolkit T In P N C) : Toolkit (T × List (Pass In)) In P N C where
  onEvent e t := (k.onEvent e t.1, t.2)
  takeInput size t :=
    let (input, toolkit) := k.takeInput size t.1
    (input, toolkit, t.2 ++ [.took input])
  beginFrame input t := (k.beginFrame input t.1, t.2 ++ [.began input])
  endFrame t :=
    let (output, toolkit) := k.endFrame t.1
    (output, toolkit, t.2 ++ [.ended])
  wantsMouse t := k.wantsMouse t.1
  wantsKeyboard t := k.wantsKeyboard t.1
  declare sub cache t :=
    let (values, cache, toolkit) := k.declare sub cache t.1
    (values, cache, toolkit, t.2)

/-! ## Whole passes -/

/-- The values alternate, and `b` is the first. -/
def Alternate (b : Bool) : List Bool → Prop
  | [] => True
  | x :: xs => x = b ∧ Alternate (!b) xs

section Whole

variable (closed : List In) (last : Option In)

theorem alternate_whole : Alternate true ((Pass.whole closed last).filterMap Pass.edge?) := by
  induction closed with
  | nil =>
    cases last with
    | none => trivial
    | some input => exact ⟨rfl, trivial⟩
  | cons input closed ih => exact ⟨rfl, rfl, ih⟩

/-- The last frame is open exactly if it was begun and not ended. -/
theorem getLast?_whole :
    ((Pass.whole closed last).filterMap Pass.edge?).getLast? = some true ↔ last.isSome := by
  cases last with
  | some input =>
    rw [Pass.whole_open, List.filterMap_append, List.getLast?_append]
    exact iff_of_true rfl rfl
  | none =>
    refine iff_of_false (fun h => ?_) Bool.false_ne_true
    rcases List.eq_nil_or_concat closed with rfl | ⟨before, input, rfl⟩
    · cases h
    · rw [List.concat_eq_append, Pass.whole_close, List.filterMap_append,
        List.getLast?_append] at h
      cases h

theorem taken_whole :
    (Pass.whole closed last).filterMap Pass.taken? = closed ++ last.toList := by
  induction closed with
  | nil => cases last <;> rfl
  | cons input closed ih => exact congrArg (List.cons input) ih

theorem begun_whole :
    (Pass.whole closed last).filterMap Pass.begun? = closed ++ last.toList := by
  induction closed with
  | nil => cases last <;> rfl
  | cons input closed ih => exact congrArg (List.cons input) ih

end Whole

namespace Embedded

/-- The record holds whole passes, and the last one is open exactly if a frame is. -/
def Tidy (g : Embedded (T × List (Pass In))) (closed : List In) (last : Option In) : Prop :=
  g.toolkit.2 = Pass.whole closed last ∧ g.frameOpen = last.isSome

section Steps

variable (k : Toolkit T In P N C) {g : Embedded (T × List (Pass In))} {closed : List In}
  {last : Option In}

theorem Tidy.openFrame (size : Extent) (h : Tidy g closed last) :
    ∃ input, Tidy (g.openFrame k.watched size) closed (some input) := by
  obtain ⟨hrecord, hopen⟩ := h
  rw [Embedded.openFrame]
  cases last with
  | some input =>
    rw [if_pos (show g.frameOpen = true from hopen)]
    exact ⟨input, hrecord, hopen⟩
  | none =>
    rw [if_neg (hopen ▸ Bool.false_ne_true)]
    refine ⟨(k.takeInput size g.toolkit.1).1, ?_, rfl⟩
    rw [Pass.whole_open, ← hrecord]
    exact List.append_assoc ..

theorem Tidy.openNext (size : Extent) (h : Tidy g closed none) : ∃ input, Tidy
    (Embedded.openFrame k.watched size { g with cache := g.cache.endFrame }) closed (some input) :=
  have h' : Tidy { g with cache := g.cache.endFrame } closed none := h
  h'.openFrame k size

/-- Whatever else changes, ending the frame that is open closes the last pass. -/
theorem Tidy.endFrame {input : In} (h : Tidy g closed (some input))
    {g' : Embedded (T × List (Pass In))} (htoolkit : g'.toolkit = (k.watched.endFrame g.toolkit).2)
    (hopen : g'.frameOpen = false) : Tidy g' (closed ++ [input]) none := by
  refine ⟨?_, hopen⟩
  rw [htoolkit, Pass.whole_close, ← h.1]
  rfl

theorem Tidy.after (h : Tidy g closed last) (ask : Ask) :
    ∃ closed' last', Tidy (g.after k.watched ask) closed' last' := by
  cases ask with
  | event | suppress | reclaim => exact ⟨closed, last, h⟩
  | declare size sub =>
    obtain ⟨input, hopened⟩ := h.openFrame k size
    exact ⟨closed, some input, hopened⟩
  | endFrame size =>
    obtain ⟨input, hopened⟩ := h.openFrame k size
    exact ⟨closed ++ [input], none, hopened.endFrame k rfl rfl⟩
  | prepare size =>
    rw [Embedded.after, Embedded.prepare]
    cases last with
    | some input =>
      rw [if_pos (show g.frameOpen = true from h.2)]
      have hclosed : Tidy { g with
          toolkit := (k.watched.endFrame g.toolkit).2, frameOpen := false } (closed ++ [input])
          none := h.endFrame k rfl rfl
      obtain ⟨next, hopened⟩ := hclosed.openNext k size
      exact ⟨closed ++ [input], some next, hopened⟩
    | none =>
      rw [if_neg (h.2 ▸ Bool.false_ne_true)]
      obtain ⟨next, hopened⟩ := h.openNext k size
      exact ⟨closed, some next, hopened⟩

theorem Tidy.run (h : Tidy g closed last) (asks : List Ask) :
    ∃ closed' last', Tidy (asks.foldl (Embedded.after k.watched) g) closed' last' := by
  induction asks generalizing g closed last with
  | nil => exact ⟨closed, last, h⟩
  | cons ask asks ih =>
    obtain ⟨closed', last', h'⟩ := h.after k ask
    exact ih h'

end Steps

/-! ## What the record leaves alone -/

/-- The widgets without the record of their steps. -/
def unwatched (g : Embedded (T × List (Pass In))) : Embedded T :=
  { g with toolkit := g.toolkit.1 }

theorem unwatched_after (k : Toolkit T In P N C) (g : Embedded (T × List (Pass In))) (ask : Ask) :
    (g.after k.watched ask).unwatched = g.unwatched.after k ask := by
  obtain ⟨toolkit, writer, cache, forwarding, desired, suppressed, _ | _⟩ := g
  all_goals cases ask <;> rfl

theorem unwatched_run (k : Toolkit T In P N C) (g : Embedded (T × List (Pass In)))
    (asks : List Ask) :
    (asks.foldl (after k.watched) g).unwatched = asks.foldl (after k) g.unwatched := by
  induction asks generalizing g with
  | nil => rfl
  | cons ask asks ih =>
    rw [List.foldl_cons, ih, unwatched_after]
    rfl

/-! ## Frames and boundaries -/

theorem frameOpen_openFrame (k : Toolkit T In P N C) (size : Extent) (g : Embedded T) :
    (g.openFrame k size).frameOpen = true := by
  unfold openFrame
  split
  · assumption
  · rfl

theorem cache_openFrame (k : Toolkit T In P N C) (size : Extent) (g : Embedded T) :
    (g.openFrame k size).cache = g.cache := by
  unfold openFrame
  split <;> rfl

/-- Whether a frame is open is up to what was asked for last, but for what leaves frames alone. -/
theorem frameOpen_after (k : Toolkit T In P N C) (g : Embedded T) (ask : Ask) :
    (g.after k ask).frameOpen = ask.leavesOpen?.getD g.frameOpen := by
  cases ask with
  | event | suppress | reclaim | endFrame => rfl
  | declare size => exact frameOpen_openFrame k size g
  | prepare size => exact frameOpen_openFrame k size _

theorem frameOpen_run (k : Toolkit T In P N C) (g : Embedded T) (asks : List Ask) :
    (asks.foldl (after k) g).frameOpen =
      (asks.filterMap Ask.leavesOpen?).getLast?.getD g.frameOpen := by
  induction asks generalizing g with
  | nil => rfl
  | cons ask asks ih =>
    rw [List.foldl_cons, ih, frameOpen_after]
    rcases hleaves : ask.leavesOpen? with _ | value
    · rw [List.filterMap_cons_none hleaves]
      rfl
    · rw [List.filterMap_cons_some hleaves, List.getLast?_cons]
      rfl

/-- What is asked for leads from one set of prepared lists to another: beginning the next frame is
one boundary, a sub-window changes what its widgets change, and nothing else touches the lists. -/
inductive Shelved (k : Toolkit T In P N C) :
    Label.Cache (List String) → List Ask → Label.Cache (List String) → Prop where
  | nil {c} : Shelved k c [] c
  | boundary {c size asks c'} : Shelved k c.endFrame asks c' →
      Shelved k c (.prepare size :: asks) c'
  | used {c size sub asks c'} (t : T) : Shelved k (k.declare sub c t).2.1 asks c' →
      Shelved k c (.declare size sub :: asks) c'
  | other {c ask asks c'} : (∀ size, ask ≠ .prepare size) →
      (∀ size sub, ask ≠ .declare size sub) →
      Shelved k c asks c' → Shelved k c (ask :: asks) c'

theorem shelved_run (k : Toolkit T In P N C) (g : Embedded T) (asks : List Ask) :
    Shelved k g.cache asks (asks.foldl (after k) g).cache := by
  induction asks generalizing g with
  | nil => exact .nil
  | cons ask asks ih =>
    have hrest := ih (g.after k ask)
    cases ask with
    | event | suppress | reclaim => exact .other nofun nofun hrest
    | endFrame size =>
      have hcache : (g.after k (.endFrame size)).cache = g.cache := cache_openFrame k size g
      exact .other nofun nofun (hcache ▸ hrest)
    | declare size sub =>
      have hcache : (g.after k (.declare size sub)).cache =
          (k.declare sub g.cache (g.openFrame k size).toolkit).2.1 := by
        rw [← cache_openFrame k size g]
        rfl
      exact .used _ (hcache ▸ hrest)
    | prepare size =>
      have hcache : (g.after k (.prepare size)).cache = g.cache.endFrame := by
        refine (cache_openFrame k size _).trans ?_
        split <;> rfl
      exact .boundary (hcache ▸ hrest)

/-! ## Balance -/

/-- Widgets that came about by those asks, with a record of balanced passes. -/
structure Balanced (k : Toolkit T In P N C) (toolkit : T) (asks : List Ask)
    (g : Embedded (T × List (Pass In))) : Prop where
  came : g = run k.watched (toolkit, []) asks
  /-- The record changes nothing. -/
  faithful : g.unwatched = run k toolkit asks
  /-- Frames are begun and ended in turn, and the first such step begins one. -/
  alternate : Alternate true (g.toolkit.2.filterMap Pass.edge?)
  open_iff : g.frameOpen = true ↔ (g.toolkit.2.filterMap Pass.edge?).getLast? = some true
  /-- The inputs that were taken are those that frames were begun with, each taken once. -/
  taken : g.toolkit.2.filterMap Pass.taken? = g.toolkit.2.filterMap Pass.begun?
  whole : ∃ closed last, g.toolkit.2 = Pass.whole closed last
  /-- A frame is closed after `endFrame` and open after `prepare` and `declare`. -/
  leaves : g.frameOpen = (asks.filterMap Ask.leavesOpen?).getLast?.getD false
  shelved : Shelved k {} asks g.cache

theorem balanced_run (k : Toolkit T In P N C) (toolkit : T) (asks : List Ask) :
    Balanced k toolkit asks (run k.watched (toolkit, []) asks) := by
  let start : Embedded (T × List (Pass In)) := { toolkit := (toolkit, []) }
  have hstart : Tidy start [] none := ⟨rfl, rfl⟩
  obtain ⟨closed, last, hrecord, hopen⟩ := hstart.run k asks
  have hfaithful : (run k.watched (toolkit, []) asks).unwatched = run k toolkit asks :=
    unwatched_run k start asks
  have hshelved : Shelved k {} asks (run k toolkit asks).cache := shelved_run k { toolkit } asks
  rw [← hfaithful] at hshelved
  exact {
    came := rfl
    faithful := hfaithful
    alternate := hrecord ▸ alternate_whole closed last
    open_iff := by rw [run, hopen, hrecord, getLast?_whole]
    taken := by rw [run, hrecord, taken_whole, begun_whole]
    whole := ⟨closed, last, hrecord⟩
    leaves := frameOpen_run k.watched start asks
    shelved := hshelved }

end Embedded

end Gui

open Gui (Ask Embedded Painted Pass Toolkit)
open Native (Desktop DisplayEvent)

variable {W α β Raw Frame T In P N C : Type}

/-! ## The calls of an operation -/

namespace Window

section Traces

variable [Scalar α] [Narrowing α β] {d : Devices W α Raw Frame} {s s' : Window W α β}

/-- What an operation does to the devices is a list of calls. -/
theorem exec_perform_trace [Scalar β] {op : Operation W} (hs : s.Wired)
    (hout : op.isOutside = false) {res : Except Halt (Answer α β)}
    (h : exec (op.perform d) s = (res, s')) : ∃ calls, d.Trace s.world calls s'.world := by
  let start : RecordedWindow W α β Raw Frame := { s with world := ⟨s.world, []⟩ }
  have hout' : (op.recorded : Operation (Recorded W α Raw Frame)).isOutside = false := by
    cases op with
    | outside => cases hout
    | _ => rfl
  have hstart : start.Wired := ⟨hs.1, hs.2⟩
  obtain ⟨calls, hcalls⟩ := exec_perform_resettles (d := d) hstart hout' rfl
  have hmirror := op.mirrors_perform (d := d) start
  obtain ⟨-, hs'⟩ := Prod.mk.inj (h.symm.trans hmirror)
  exact ⟨calls, hs' ▸ hcalls.adds.trace⟩

theorem openWith_trace [Scalar β] {config : Config} {world : W}
    (h : openWith d config world = (.ok (), s)) : ∃ calls, d.Trace world calls s.world := by
  rw [openWith_recorded config world []] at h
  obtain ⟨hres, rfl⟩ := Prod.mk.inj h
  obtain ⟨calls, hadds, -⟩ := openWith_makes (d := d) (Prod.ext hres rfl)
  exact ⟨calls, hadds.trace⟩

end Traces

end Window

/-! ## Windows that host widgets -/

/-- What a call asks of the widgets in a window of that size. -/
def Call.ask? (size : Extent) : Call α DisplayEvent Frame → Option Ask
  | .rawEvent e => some (.event e)
  | .endFrame _ => some (.endFrame size)
  | .suppressCursor value => some (.suppress value)
  | .reclaimCursor => some .reclaim
  | .prepareGui => some (.prepare size)
  | _ => none

/-- The devices host embedded widgets: calls to the widgets do what they ask for, in a window of the
size at hand, and no other call does anything to them. -/
def Devices.Hosts (d : Devices W α DisplayEvent Frame) (k : Toolkit T In P N C)
    (view : W → Embedded T) (size : W → Extent) : Prop :=
  ∀ w call w', d.Does w call w' →
    view w' = (call.ask? (size w)).elim (view w) (Embedded.after k (view w))

/-- A desktop hosts its widgets. -/
theorem hosts_desktop [DecidableEq N] (k : Toolkit T In P N C) :
    (Desktop.devices k).Hosts k Desktop.gui (·.display.framebuffer) := by
  intro w call w' h
  cases h with
  | endFrame =>
    let p := w.gui.endFrame k w.display.framebuffer
    obtain ⟨visible, icon, log, hobeyed⟩ := Native.obeyed_eq { w with gui := p.2 } p.1.2
    exact congrArg Desktop.gui hobeyed
  | writeImage path =>
    rcases hwrite : w.surface.writeImage path w.disk with e | disk
    all_goals
      show ((Desktop.renderer.writeImage path w).2).gui = w.gui
      simp only [Desktop.renderer, hwrite]
  | _ => rfl

/-- Embedded widgets in a window that keeps its size and has no native cursor. -/
def Gui.Embedded.widgets (k : Toolkit T In P N C) (size : Extent) (paint : Painted P N C → Frame) :
    Gui (Embedded T) DisplayEvent Frame where
  onRawEvent e g := g.onEvent k e
  endFrame g :=
    let ((painted, _), g) := g.endFrame k size
    (paint painted, g)
  desired := Embedded.desired
  wantsMouse g := k.wantsMouse g.toolkit
  wantsKeyboard g := k.wantsKeyboard g.toolkit
  suppressCursor value g := { g with suppressed := value }
  reclaimCursor g := { g with forwarding := g.forwarding.reclaim }
  prepare g := g.prepare k size

/-- Widgets beside any other devices are hosted, whatever fails among these. -/
theorem hosts_ofParts {X R K : Type} (p : Platform X α DisplayEvent) (r : Renderer R Frame)
    (c : Pacing.Clock K) (k : Toolkit T In P N C) (size : Extent)
    (paint : Painted P N C → Frame) :
    (Devices.ofParts p r (Embedded.widgets k size paint) c).Hosts k Parts.gui fun _ => size := by
  intro w call w' h
  cases h <;> rfl

section Hosts

variable {d : Devices W α DisplayEvent Frame} {k : Toolkit T In P N C} {view : W → Embedded T}
  {size : W → Extent}

theorem Devices.Hosts.trace (hd : d.Hosts k view size) {w w' : W}
    {calls : List (Call α DisplayEvent Frame)} (h : d.Trace w calls w') :
    ∃ asks : List Ask, view w' = asks.foldl (Embedded.after k) (view w) := by
  induction h with
  | nil => exact ⟨[], rfl⟩
  | @cons w w' w'' call calls hcall _ ih =>
    obtain ⟨asks, hrest⟩ := ih
    have hfirst := hd _ _ _ hcall
    rw [hfirst] at hrest
    rcases hask : call.ask? (size w) with _ | ask
    · rw [hask] at hrest
      exact ⟨asks, hrest⟩
    · rw [hask] at hrest
      exact ⟨ask :: asks, hrest⟩

/-- What happens from outside asks the widgets for what anybody may ask, or does not touch them. -/
def Operation.Attends (k : Toolkit T In P N C) (view : W → Embedded T) : Operation W → Prop
  | .outside f => ∀ w, ∃ asks : List Ask, view (f w) = asks.foldl (Embedded.after k) (view w)
  | _ => True

variable [Scalar α] [Narrowing α β] [Scalar β] {s s' : Window W α β}

/-- An operation asks the widgets for what anybody may ask, however it ends. -/
theorem Window.Step.asks {turn : Turn W α β DisplayEvent} (h : Step d s turn s') (hs : s.Wired)
    (hd : d.Hosts k view size) (hturn : ∀ op, turn.operation = some op → op.Attends k view) :
    ∃ asks : List Ask, view s'.world = asks.foldl (Embedded.after k) (view s.world) := by
  obtain ⟨op, hop, hexec⟩ := h.exec_eq
  rcases hout : op.isOutside with _ | _
  · obtain ⟨calls, htrace⟩ := exec_perform_trace hs hout hexec
    exact hd.trace htrace
  · cases op with
    | outside f =>
      obtain ⟨-, rfl⟩ := Prod.mk.inj hexec
      exact hturn _ hop s.world
    | _ => cases hout

theorem Window.Course.asks {config : Config} {world : W} {turns : List (Turn W α β DisplayEvent)}
    (h : Course d config world turns s) (hd : d.Hosts k view size)
    (hturns : ∀ op ∈ turns.filterMap Turn.operation, op.Attends k view) :
    ∃ asks : List Ask, view s.world = asks.foldl (Embedded.after k) (view world) := by
  induction h with
  | opened hopen =>
    obtain ⟨calls, htrace⟩ := openWith_trace hopen
    exact hd.trace htrace
  | @next turns s turn s' hcourse hstep ih =>
    rw [List.filterMap_append] at hturns
    obtain ⟨hearlier, hlast⟩ := List.forall_mem_append.1 hturns
    obtain ⟨asks, hasks⟩ := ih hearlier
    obtain ⟨later, hlater⟩ := hstep.asks hcourse.wired hd fun op hop =>
      hlast op (List.mem_filterMap.2 ⟨turn, List.mem_singleton_self turn, hop⟩)
    refine ⟨asks ++ later, ?_⟩
    rw [hlater, hasks, List.foldl_append]

end Hosts

/-- Whatever is asked of embedded widgets, in any order, the passes of their toolkit stay balanced:
frames are begun and ended in turn, each with an input that is taken once and for it, a frame is
open exactly if the last of these steps began one, and the prepared lists pass one boundary for each
frame that is prepared. In a window over devices that host the widgets, as a desktop does, every
course is a list of such asks, whatever its operations, in whatever order and with whatever outcome,
and whatever the host program asks for itself in between. -/
theorem passes_balanced (k : Toolkit T In P N C) (toolkit : T) [DecidableEq N] :
    (∀ asks, Embedded.Balanced k toolkit asks (Embedded.run k.watched (toolkit, []) asks)) ∧
      (∀ {W α β Frame : Type} [Scalar α] [Narrowing α β] [Scalar β]
        (d : Devices W α DisplayEvent Frame) (view : W → Embedded (T × List (Pass In)))
        (size : W → Extent) (config : Config) (world : W)
        (turns : List (Turn W α β DisplayEvent)) (s : Window W α β),
        d.Hosts k.watched view size → view world = { toolkit := (toolkit, []) } →
        Window.Course d config world turns s →
        (∀ op ∈ turns.filterMap Turn.operation, op.Attends k.watched view) →
        ∃ asks, Embedded.Balanced k toolkit asks (view s.world)) ∧
      (Desktop.devices k.watched).Hosts k.watched Desktop.gui (·.display.framebuffer) := by
  refine ⟨Embedded.balanced_run k toolkit, ?_, hosts_desktop k.watched⟩
  intro W α β Frame _ _ _ d view size config world turns s hd hview hcourse hturns
  obtain ⟨asks, hasks⟩ := hcourse.asks hd hturns
  rw [hview] at hasks
  exact ⟨asks, hasks ▸ Embedded.balanced_run k toolkit asks⟩

/-- A toolkit that numbers its frames and shows nothing. -/
def numbering : Toolkit Nat Nat Unit Unit Unit where
  onEvent _ n := n
  takeInput _ n := (n, n + 1)
  beginFrame _ n := n
  endFrame n := ((.default, ⟨(), [], [], 1⟩), n)
  wantsMouse _ := false
  wantsKeyboard _ := false
  declare _ c n := ([], c, n)

/-- The world of embedded widgets, with a record of their passes, beside scripted devices. -/
abbrev PassStage := Parts (Script.Screen Rat DisplayEvent) Script.Easel
  (Embedded (Nat × List (Pass Nat))) Pacing.Manual

def passDevices : Devices PassStage Rat DisplayEvent Nat :=
  .ofParts Script.Screen.platform Script.Easel.renderer
    (Embedded.widgets numbering.watched ⟨2, 1⟩ fun _ => 0) Pacing.Manual.clock

/-- A stage whose renderer fails to draw the first frame. -/
def passStage : PassStage where
  platform := { size := ⟨2, 1⟩ }
  renderer := { size := ⟨2, 1⟩, failures := [(.draw, .surface "lost")] }
  gui := { toolkit := (0, []) }
  clock := {}

/-- The host program declares an empty sub-window. -/
def declareEmpty : Operation PassStage :=
  .outside fun w =>
    { w with gui := w.gui.after numbering.watched (.declare ⟨2, 1⟩ ⟨"", (0, 0), (1, 1), []⟩) }

/-- What a host program does: a draw that fails, two draws, and a sub-window before and after them,
before the frame is read. -/
def passOperations : List (Operation PassStage) :=
  [.drawFrame, declareEmpty, .drawFrame, .drawFrame, declareEmpty, .dumpImage]

def passConfig : Config := { showWindow := false, size := ⟨2, 1⟩ }

/-- The window without a surface after those operations. -/
def passWindow : Window PassStage Rat Rat :=
  passOperations.foldl (fun s op => (Window.exec (op.perform passDevices) s).2)
    (Window.openWith passDevices passConfig passStage).2

theorem passes_balanced_numbering :
    ∃ turns, Window.Course passDevices passConfig passStage turns passWindow ∧
      turns.map (·.answer.isOk) = [true, false, true, true, true, true, true] ∧
      (∃ asks, Embedded.Balanced numbering 0 asks passWindow.world.gui) ∧
      passWindow.world.gui.toolkit.2 = Pass.whole [0, 1, 2, 3] (some 4) := by
  have hends {s : Window PassStage Rat Rat} {op : Operation PassStage}
      {a : Except WindowError (Answer Rat Rat)}
      (ha : (Window.exec (op.perform passDevices) s).1 = a.mapError .failed) :
      Window.exec (op.perform passDevices) s =
        (a.mapError .failed, (Window.exec (op.perform passDevices) s).2) := Prod.ext ha rfl
  obtain ⟨ds, h⟩ := Window.exists_opened
    (show Window.openWith passDevices passConfig passStage =
      (.ok (), (Window.openWith passDevices passConfig passStage).2) from rfl)
  obtain ⟨batch₁, ds₁, h₁⟩ :=
    h.exists_next .drawFrame (.error (.backend (.surface "lost"))) (hends rfl)
  obtain ⟨batch₂, ds₂, h₂⟩ := h₁.exists_next declareEmpty (.ok .done) (hends rfl)
  obtain ⟨batch₃, ds₃, h₃⟩ := h₂.exists_next .drawFrame (.ok .done) (hends rfl)
  obtain ⟨batch₄, ds₄, h₄⟩ := h₃.exists_next .drawFrame (.ok .done) (hends rfl)
  obtain ⟨batch₅, ds₅, h₅⟩ := h₄.exists_next declareEmpty (.ok .done) (hends rfl)
  obtain ⟨batch₆, ds₆, h₆⟩ := h₅.exists_next .dumpImage (.ok (.picture ⟨#[0, 1], 2, 1⟩)) (hends rfl)
  have hattends : ∀ op ∈ passOperations, op.Attends numbering.watched Parts.gui := by
    have hdeclare : declareEmpty.Attends numbering.watched Parts.gui :=
      fun _ => ⟨[.declare ⟨2, 1⟩ ⟨"", (0, 0), (1, 1), []⟩], rfl⟩
    simp only [passOperations, List.forall_mem_cons]
    exact ⟨trivial, hdeclare, trivial, trivial, hdeclare, trivial, nofun⟩
  obtain ⟨-, hwindows, -⟩ := passes_balanced numbering 0
  exact ⟨_, h₆, rfl, hwindows passDevices Parts.gui _ _ _ _ _ (hosts_ofParts _ _ _ _ _ _) rfl h₆
    hattends, rfl⟩

end WindowHost
