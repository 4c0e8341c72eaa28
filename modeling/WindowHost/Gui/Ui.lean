import WindowHost.Gui.Response
import WindowHost.Gui.Typeface
import WindowHost.Gui.Widget

/-!
# Laying out widgets

A `Ui` action declares widgets in the region at hand. `Ui.place` takes room for a widget and
`Ui.touch` also tells what the user does to it; `Ui.row`, `Ui.column`, `Ui.indented`, `Ui.folded`
and `Ui.inLayer` declare widgets in a region of their own.
-/

namespace WindowHost.Gui

/-- What is at hand while widgets are declared. -/
structure Build where
  context : Context
  region : Region
  /-- The prepared items of lists. -/
  cache : Label.Cache (List String) := {}
  /-- Points in the widgets that were declared. -/
  spots : List (Place × Point) := []

/-- An action that declares widgets. -/
abbrev Ui := StateM Build

namespace Ui

def region : Ui Region := do pure (← get).region

def modifyRegion (f : Region → Region) : Ui Unit :=
  modify fun b => { b with region := f b.region }

def context : Ui Context := do pure (← get).context

def modifyContext (f : Context → Context) : Ui Unit :=
  modify fun b => { b with context := f b.context }

def notes : Ui Notes := do pure (← context).notes

def note (f : Notes → Notes) : Ui Unit := modifyContext (·.note f)

def spot (place : Place) (p : Point) : Ui Unit :=
  modify fun b => { b with spots := (place, p) :: b.spots }

def typeface : Ui Typeface := do pure (Typeface.body (← context).scale)

/-- The size of a text on one line. -/
def line (text : String) : Ui Point := do pure ((← typeface).wrap none text)

/-- The size of a text, broken into lines unless it stands in a row. `beside` is the room that
something beside it takes. -/
def paragraph (beside : Float32) (text : String) : Ui Point := do
  let r ← region
  let room := if r.isRow then none else some (r.available.width - beside)
  pure ((← typeface).wrap room text)

/-- Takes room for something of that size. -/
def place (size : Point) : Ui (WidgetId × Rect) := do
  let r ← region
  let frame := r.frame size
  let rect := r.placed frame size
  modifyRegion fun r => { r.advance frame rect with count := r.count + 1 }
  pure (r.nextId, rect)

/-- Goes on after something that has taken its room by itself. -/
def finish (rect : Rect) : Ui WidgetId := do
  let r ← region
  modifyRegion fun r => { r.advance rect rect with count := r.count + 1 }
  pure r.nextId

def respond (id : WidgetId) (rect : Rect) (sense : Sense) : Ui Response :=
  modifyGet fun b =>
    let (response, context) := b.context.respond b.region id rect sense
    (response, { b with context })

/-- Declares a nameless widget of that size. -/
def touch (size : Point) (sense : Sense) : Ui Response := do
  let (id, rect) ← place size
  respond id rect sense

def icon (i : Cursor.WidgetIcon) : Ui Unit := modifyContext (·.setIcon i)

/-- Declares widgets in another region and goes on in the one at hand. -/
def within {α : Type} (inner : Region) (act : Ui α) : Ui (α × Region) := do
  let outer ← region
  modifyRegion fun _ => inner
  let a ← act
  let inner ← region
  modifyRegion fun _ => { outer with count := outer.count + 1 }
  pure (a, inner)

/-- Declares widgets beside one another. -/
def row {α : Type} (act : Ui α) : Ui α := do
  let r ← region
  let size : Point := ⟨r.available.width, Region.rowHeight⟩
  let (a, inner) ← within (r.child (r.placed (r.frame size) size) true (.part .content)) act
  modifyRegion (·.advance inner.taken inner.taken)
  pure a

/-- Declares widgets below one another. -/
def column {α : Type} (act : Ui α) : Ui α := do
  let r ← region
  let (a, inner) ← within (r.child r.available false (.part .content)) act
  modifyRegion (·.advance inner.taken inner.taken)
  pure a

/-- Declares widgets further to the right. -/
def indented {α : Type} (step : Step) (act : Ui α) : Ui α := do
  let r ← region
  let a := r.available
  let room := { a with left := a.left + Region.indentation }
  let (a, inner) ← within (r.child room false step) act
  let _ ← finish inner.taken
  pure a

/-- How far something is open, from zero to one. -/
def openness (isSmooth : Bool) (f : Fold) : Float32 :=
  if f.turned && isSmooth then if f.isOpen then 0.1 else 0.9
  else if f.isOpen then 1 else 0

/-- Whether something is open and how high it is, where `isOpen` tells whether it is at first. -/
def fold (id : WidgetId) (isOpen : Bool) : Ui Fold := do
  pure (((← notes).folds.lookup id).getD { isOpen })

/-- Notes whether something is open. -/
def setFold (id : WidgetId) (f : Fold) : Ui Unit :=
  note fun n => { n with folds := (id, f) :: n.folds.filter (·.1 != id) }

/-- Opens what is closed and closes what is open. -/
def turn (id : WidgetId) (isOpen : Bool) : Ui Unit := do
  let f ← fold id isOpen
  setFold id { f with isOpen := !f.isOpen, turned := true }

/-- Declares widgets that show only while something is open. On the way a part of them shows. -/
def folded {α : Type} (id : WidgetId) (isOpen : Bool) (act : Ui α) : Ui (Option α) := do
  let f ← fold id isOpen
  let share := openness (← context).isSmooth f
  if share ≤ 0 then pure none
  else
    let r ← region
    let inner := r.child r.available r.isRow (.part .content)
    if share < 1 then
      let height := if f.isOpen && f.height.isNone then 10 else mix 0 (f.height.getD 0) share
      let top := inner.room.top
      let clip := { inner.clip with bottom := min inner.clip.bottom (top + height) }
      let (a, inner) ← within { inner with clip } act
      modifyRegion fun _ => r
      setFold id { f with height := some inner.taken.height }
      let taken := inner.taken
      let _ ← finish { taken with bottom := min taken.bottom (taken.top + height) }
      pure (some a)
    else
      let (a, inner) ← within inner act
      modifyRegion fun _ => r
      setFold id { f with height := some inner.taken.height }
      let _ ← finish inner.taken
      pure (some a)

/-- The area where a layer begins, and what the user does to it as a whole. The layer comes to the
top when the user presses a button on it, and when it was not there before. -/
def beginLayer (layer : Layer) (area : Area) : Ui (Response × Area) := do
  let c ← context
  let whole : Rect := ⟨-Region.endless, -Region.endless, Region.endless, Region.endless⟩
  let (response, c) := c.respond (.ofLayer layer area.rect whole true) (.part .whole :: layer.id)
    area.rect { click := true }
  let isPressed := c.pointer.isPressing && c.pointer.place.any fun p => c.layers.at? p == some layer
  let isRaised := response.isClicked || isPressed || !c.layers.shownBefore.contains layer
  modifyContext fun _ => if isRaised then { c with layers := c.layers.raise layer } else c
  let area := area.movedTo (c.keepOnScreen area.rect)
  let area := area.movedTo (c.toPixels area.corner)
  let p := c.pointer
  let isLeftOut := p.isClicking && !response.isUnder && p.place.any (!area.rect.contains ·)
  pure ({ response with rect := area.rect, isLeftOut }, area)

/-- Declares widgets with a margin around them. -/
def framed {α : Type} (margin : Float32) (act : Ui α) : Ui α := do
  let r ← region
  let a := r.available
  let left := a.left + margin
  let top := a.top + margin
  let room : Rect := ⟨left, top, max (a.right - margin) left, max (a.bottom - margin) top⟩
  let (a, inner) ← within (r.child room r.isRow (.part .content)) act
  let _ ← finish (inner.taken.expand margin margin)
  pure a

/-- Declares widgets in a layer of their own. One that is new shows only from the next frame on. -/
def inLayer {α : Type} (layer : Layer) (area : Area) (act : Ui α) : Ui α := do
  let c ← context
  let r ← region
  let corner := area.corner
  let room : Rect :=
    ⟨corner.x, corner.y, max c.screen.right (corner.x + 32), max c.screen.bottom (corner.y + 32)⟩
  let seen : Rect := ⟨corner.x, corner.y, c.screen.right, c.screen.bottom⟩
  let clip := (seen.expand 8 8).intersect c.screen
  let isOld := (c.layers.area? layer).isSome
  let (a, inner) ← within (Region.ofLayer layer room clip isOld) act
  modifyRegion fun _ => r
  modifyContext fun c =>
    { c with layers := c.layers.set layer { area with size := inner.taken.size } }
  pure a

end Ui

end WindowHost.Gui
