import WindowHost.Gui.Ui

/-!
# Floating windows

`Ui.floating` declares widgets in a window of their own inside the native one. It has a title with a
button that folds it, it is as large as its content, and the user moves it by its body and changes
its size by its edges.
-/

namespace WindowHost.Gui

namespace Grip

/-- How far from an edge the pointer grasps it. -/
def edgeRange : Float32 := 5

/-- How far from a corner the pointer grasps both its edges. -/
def cornerRange : Float32 := 10

/-- What the pointer grasps of a window. One that is folded has no edges to be grasped. -/
def ofPoint (layer : Layer) (r : Rect) (isFolded : Bool) (p : Point) : Grip :=
  if isFolded then { layer, start := r }
  else
    let isAt (x y : Float32) : Bool := (x - y).abs ≤ edgeRange
    let isNear (x y : Float32) : Bool := Point.distance ⟨x, y⟩ p < cornerRange
    let leftTop := isNear r.left r.top
    let rightTop := isNear r.right r.top
    let leftBottom := isNear r.left r.bottom
    let rightBottom := isNear r.right r.bottom
    { layer
      start := r
      left := isAt r.left p.x || leftTop || leftBottom
      right := isAt r.right p.x || rightTop || rightBottom
      top := isAt r.top p.y || leftTop || rightTop
      bottom := isAt r.bottom p.y || leftBottom || rightBottom }

def resizes (g : Grip) : Bool := g.left || g.right || g.top || g.bottom

/-- The cursor that shows how a window is grasped. -/
def icon? (g : Grip) : Option Cursor.WidgetIcon :=
  if g.left && g.top || g.right && g.bottom then some .resizeNwSe
  else if g.right && g.top || g.left && g.bottom then some .resizeNeSw
  else if g.left || g.right then some .resizeHorizontal
  else if g.bottom || g.top then some .resizeVertical
  else none

/-- Where a window goes when the pointer drags it. In the frame of the press it stays, so that a
widget may take the drag. -/
def lead (g : Grip) (c : Context) (p : Point) : Option Rect :=
  let r := g.start
  let q := c.toPixels p
  if g.resizes then
    some
      { left := if g.left then q.x else r.left
        right := if g.right && !g.left then q.x else r.right
        top := if g.top then q.y else r.top
        bottom := if g.bottom && !g.top then q.y else r.bottom }
  else if c.pointer.isPressing then some r
  else c.pointer.origin.map fun o => r.movedTo (r.corner.plus (p.minus o))

end Grip

namespace Ui

/-- What the pointer would grasp of a window if a button went down now. -/
def graspable (layer : Layer) (r : Rect) (isFolded : Bool) : Ui (Option Grip) := do
  let c ← context
  let isBusy := !c.pointer.down.isEmpty && !c.pointer.isPressing || c.held.dragInterest
  let near := r.expand Grip.edgeRange Grip.edgeRange
  pure <| c.pointer.place.bind fun p =>
    let isOther := (c.layers.at? p).any fun l => l != layer && l != .background
    if isBusy || isOther || !near.contains p then none
    else some (.ofPoint layer r isFolded p)

/-- Asks for a cursor, if there is one to ask for. -/
def setIcon? (i : Option Cursor.WidgetIcon) : Ui Unit :=
  match i with
  | some i => icon i
  | none => pure ()

/-- How the pointer holds a window, if it does. -/
def grasp (layer : Layer) (r : Rect) (isFolded : Bool) : Ui (Option Grip) := do
  let id : WidgetId := .part .edge :: layer.id
  let c ← context
  if c.held.drag.any (· != id) then pure none
  else
    if c.held.grip.isNone then
      if let some g ← graspable layer r isFolded then
        setIcon? g.icon?
        if c.pointer.isPressing && c.pointer.down.contains .left then
          modifyContext fun c =>
            { c with held := { c.held with drag := some id, dragsWindow := true, grip := some g } }
    let held := (← context).held
    pure (held.grip.filter fun g => g.layer == layer && held.drag == some id)

def windowMargin : Float32 := 6.5

def titleGap : Float32 := 12

def titleHeight : Ui Float32 := do pure (Typeface.heading (← context).scale).lineHeight

/-- Moves a window, or changes its size, as the user wants it. -/
def led (layer : Layer) (area : Area) (isFolded : Bool) : Ui Area := do
  let some g ← grasp layer area.rect isFolded | pure area
  setIcon? g.icon?
  let c ← context
  let wanted := if c.pointer.down.contains .left then c.pointer.place.bind (g.lead c) else none
  let some r := wanted | pure area
  let leftTop := c.toPixels r.corner
  let rightBottom := c.toPixels ⟨r.right, r.bottom⟩
  let r : Rect := ⟨leftTop.x, leftTop.y, rightBottom.x, rightBottom.y⟩
  if g.resizes then
    let around : Point := ⟨2 * windowMargin, 2 * windowMargin + (← titleHeight) + titleGap⟩
    let request (e : Layer × Extents) : Layer × Extents :=
      if e.1 == layer then (e.1, { e.2 with requested := some (r.size.minus around) }) else e
    note fun n => { n with extents := n.extents.map request }
  modifyContext fun c => { c with layers := c.layers.raise layer }
  pure (area.movedTo (c.keepOnScreen r))

def foldId (layer : Layer) : WidgetId := .part .fold :: layer.id

/-- The title of a window, with its button, and the identity of the title. -/
def titleBar (layer : Layer) (name : String) : Ui (WidgetId × Rect) := row do
  let height := max (← titleHeight) Region.rowHeight
  let low := (← region).available.top + height
  modifyRegion fun r =>
    { r with
      room := { r.room with bottom := max r.room.bottom low }
      cursor := { r.cursor with bottom := max r.cursor.bottom low }
      taken := { r.taken with top := low - height, bottom := low } }
  let side : Float32 := 14
  let margin := (height - side) / 2
  modifyRegion (·.skip margin)
  let (_, button) ← place ⟨side, side⟩
  let response ← respond (foldId layer) button { click := true }
  if response.isClicked then turn (foldId layer) true
  let width := ((Typeface.heading (← context).scale).wrap none name).x
  let r ← region
  let bar := Rect.sized r.taken.corner ⟨2 * (margin + side + r.gap.x) + width, height⟩
  pure (← finish bar, bar)

/-- Declares widgets in the room that a window has for them. -/
def fitted {α : Type} (layer : Layer) (least default : Point) (act : Ui α) : Ui α := do
  let r ← region
  let c ← context
  let e := match c.notes.extents.lookup layer with
    | some e => e
    | none => { desired := (default.atLeast least).atMost (c.screen.size.minus ⟨12, 12⟩) }
  let desired := (e.requested.getD ((e.desired.atLeast least).atLeast e.content)).atLeast least
  let room := Rect.sized r.available.corner desired
  let full := Rect.sized room.corner (desired.atLeast e.content)
  let clip := r.clip.intersect (full.expand 3 3)
  let inner := { r.child room false (.part .content) with clip }
  let (a, inner) ← within inner act
  note fun n =>
    { n with
      extents := (layer, { desired, content := inner.taken.size })
        :: n.extents.filter (·.1 != layer) }
  let _ ← finish inner.taken
  pure a

/-- Leaves gaps of that height between the widgets that follow. -/
def setGap (y : Float32) : Ui Unit :=
  modifyRegion fun r => { r with gap := { r.gap with y } }

/-- Declares widgets in a window that is at first at `corner` and of that size. -/
def floating {α : Type} (name : String) (corner size : Point) (act : Ui α) : Ui (Option α) := do
  let layer := Layer.window name
  let isFolded := !(← fold (foldId layer) true).isOpen
  let area := ((← context).layers.area? layer).getD { anchor := corner }
  let (_, area) ← beginLayer layer area
  let area ← led layer area isFolded
  inLayer layer area do
    let (id, bar, width, a) ← framed windowMargin do
      setGap titleGap
      let (id, bar) ← titleBar layer name
      setGap 0
      let a ← folded (foldId layer) true do
        setGap 3
        fitted layer ⟨max 96 bar.width, 32⟩ size act
      pure (id, bar, (← region).taken.width, a)
    let bar := { bar with right := max bar.right (bar.left + width) }
    let response ← respond id (bar.expand (-32) 0) { click := true }
    if response.isDoubleClicked then turn (foldId layer) true
    pure a

end Ui

end WindowHost.Gui
