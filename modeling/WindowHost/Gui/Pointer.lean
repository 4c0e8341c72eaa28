import WindowHost.Button
import WindowHost.Gui.Geometry

/-!
# The pointer

`Pointer.advance` follows the pointer and its buttons through the events of a frame. A button that
goes down and up at nearly the same place is a click.
-/

namespace WindowHost.Gui

/-- What happens to the pointer. -/
inductive PointerEvent where
  | moved (p : Point)
  | button (b : MouseButton) (down : Bool) (p : Point)
  | scrolled (delta : Point)
  | gone

/-- A change of a button. -/
inductive ButtonChange where
  | pressed (b : MouseButton)
  /-- A button goes up. If that is a click, it has a number, which counts from one. -/
  | released (b : MouseButton) (click : Option Nat)

namespace ButtonChange

def isPress : ButtonChange → Bool
  | pressed _ => true
  | released .. => false

def isClick : ButtonChange → Bool
  | released _ click => click.isSome
  | pressed _ => false

end ButtonChange

/-- The pointer in a frame. -/
structure Pointer where
  /-- Where it is, unless it has left. -/
  latest : Option Point := none
  /-- Where it was last in the frame. -/
  place : Option Point := none
  /-- How far it moved since the frame before. -/
  delta : Point := ⟨0, 0⟩
  /-- The buttons that are down. -/
  down : List MouseButton := []
  /-- Where a button went down. -/
  origin : Option Point := none
  /-- Whether it went too far from there for a click. -/
  strayed : Bool := false
  /-- How many clicks there were. -/
  clicks : Nat := 0
  /-- How far the content is to be scrolled. -/
  scroll : Point := ⟨0, 0⟩
  /-- The changes of buttons in the frame. -/
  changes : List ButtonChange := []

namespace Pointer

def clickRange : Float32 := 6

def mayClick (p : Pointer) : Bool := !p.down.isEmpty && !p.strayed

/-- The pointer after an event. -/
def follow (p : Pointer) : PointerEvent → Pointer
  | .moved q =>
    let strays := p.origin.any fun o => clickRange < o.distance q
    { p with latest := some q, place := some q, strayed := p.strayed || strays }
  | .button b true q =>
    { p with
      latest := some q
      place := some q
      down := p.down.insert b
      origin := some q
      strayed := false
      changes := p.changes ++ [.pressed b] }
  | .button b false q =>
    let clicks := if p.mayClick then p.clicks + 1 else p.clicks
    { p with
      latest := some q
      place := some q
      down := p.down.filter (· != b)
      origin := none
      clicks
      changes := p.changes ++ [.released b (if p.mayClick then some clicks else none)] }
  | .scrolled d => { p with scroll := p.scroll.plus d }
  | .gone => { p with latest := none }

/-- The pointer in the next frame. -/
def advance (p : Pointer) (events : List PointerEvent) : Pointer :=
  let start := { p with place := p.latest, scroll := ⟨0, 0⟩, changes := [] }
  let next := events.foldl follow start
  let delta := match p.latest, next.latest with
    | some before, some after => after.minus before
    | _, _ => ⟨0, 0⟩
  { next with delta }

def isPressing (p : Pointer) : Bool := p.changes.any (·.isPress)

def isReleasing (p : Pointer) : Bool := p.changes.any (!·.isPress)

def isClicking (p : Pointer) : Bool := p.changes.any (·.isClick)

/-- Whether it is clear that the pointer drags, and does not begin a click. -/
def isDragging (p : Pointer) : Bool :=
  (!p.down.isEmpty || p.isReleasing) && !p.isPressing && !p.mayClick && !p.isClicking

end Pointer

end WindowHost.Gui
