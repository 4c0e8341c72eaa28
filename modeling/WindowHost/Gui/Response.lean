import WindowHost.Gui.Context
import WindowHost.Gui.Region

/-!
# Responses of widgets

`Context.respond` declares a widget at a place on the screen and tells what the user does to it. A
widget is hit where it can be seen, unless another layer or a later widget of the frame before lies
over it. Once it is held, it is held until the button goes up.
-/

namespace WindowHost.Gui

/-- What the user does to a widget. -/
structure Response where
  id : WidgetId
  rect : Rect
  /-- Whether the pointer is over it. -/
  isUnder : Bool := false
  /-- Whether the pointer is over it and does not hold something else. -/
  isHovered : Bool := false
  /-- Whether the left button clicks it. -/
  isClicked : Bool := false
  /-- Whether that click is the second one of two. -/
  isDoubleClicked : Bool := false
  /-- Whether a button is held down on it. -/
  isHeld : Bool := false
  isDragged : Bool := false
  /-- Where the pointer is, if it acts on the widget. -/
  pointer : Option Point := none
  /-- Whether a click falls outside of it. -/
  isLeftOut : Bool := false

/-- What a change of a button does to a widget and to what is held. -/
structure Handling where
  held : Held
  isHeld : Bool
  isDragged : Bool
  /-- Whether a drag ends. -/
  isDropped : Bool := false
  clicks : List (MouseButton × Nat) := []

namespace Handling

/-- A button goes down or up. A widget takes a drag away from a sub-window. -/
def change (id : WidgetId) (sense : Sense) (isUnder : Bool) (h : Handling) :
    ButtonChange → Handling
  | .pressed _ =>
    if !isUnder then h
    else
      let h :=
        if sense.click && h.held.click.isNone then
          { h with held := { h.held with click := some id }, isHeld := true }
        else h
      if sense.drag && (h.held.drag.isNone || h.held.dragsWindow) then
        { h with
          held := { h.held with drag := some id, dragsWindow := false, grip := none }
          isHeld := true
          isDragged := h.isDragged || !sense.click }
      else h
  | .released b click =>
    let clicks := match click with
      | some n => if sense.click && isUnder && h.isHeld then h.clicks ++ [(b, n)] else h.clicks
      | none => h.clicks
    { h with clicks, isDropped := h.isDragged, isDragged := false, isHeld := false }

end Handling

namespace Context

/-- How far around a widget it can be hit: nearly half of the gap to the next one. -/
def slack (gap : Float32) : Float32 := min (max (gap / 2 - 0.1) 0) 5

/-- Whether a widget that reacts to `blocker` and lies over one that reacts to `sense` hides it. A
click goes through what can only be dragged, and a drag through what can only be clicked. -/
def hides (blocker sense : Sense) : Bool :=
  (blocker.click || blocker.drag) && (blocker.click || sense.drag) && (blocker.drag || sense.click)

/-- Whether a widget is under a later one, going by the frame before. -/
def isCovered (c : Context) (layer : Layer) (id : WidgetId) (sense : Sense) (p : Point) : Bool :=
  let above := (c.sitesBefore.filter (·.layer == layer)).reverse.takeWhile (·.id != id)
  above.any fun s => s.rect.contains p && hides s.sense sense

/-- Declares a widget. -/
def respond (r : Region) (id : WidgetId) (rect : Rect) (sense : Sense) (c : Context) :
    Response × Context :=
  let area := r.clip.intersect (rect.expand (slack r.gap.x) (slack r.gap.y))
  let isUnder := area.isPositive && c.pointer.place.any fun p =>
    area.contains p && c.layers.at? p == some r.layer && !c.isCovered r.layer id sense p
  let site : Site := { id, layer := r.layer, rect := area, sense }
  let c :=
    { c with
      declared := id :: c.declared
      sites := if area.isPositive then c.sites ++ [site] else c.sites }
  let isLeftOut := c.pointer.isClicking && !isUnder && c.pointer.place.any (!rect.contains ·)
  let isFocused := c.focus.current == some id
  let unfocused : Focus := { c.focus with current := none }
  if !r.isEnabled then
    ({ id, rect, isLeftOut }, { c with focus := if isFocused then unfocused else c.focus })
  else
    let isDragging := c.held.drag == some id && (!sense.click || c.pointer.isDragging)
    let start : Handling :=
      { held := { c.held with dragInterest := c.held.dragInterest || isUnder && sense.drag }
        isHeld := c.held.click == some id || c.held.drag == some id
        isDragged := sense.drag && isDragging }
    let h := c.pointer.changes.foldl (Handling.change id sense isUnder) start
    let isActive := h.isHeld || h.isDropped || !h.clicks.isEmpty
    let losesFocus := if isFocused then isLeftOut else h.isDragged
    ({ id, rect, isUnder, isLeftOut,
       isHovered := isUnder && (c.pointer.down.isEmpty || h.isHeld)
       isClicked := h.clicks.any (·.1 == MouseButton.left)
       isDoubleClicked := h.clicks.contains (MouseButton.left, 2)
       isHeld := h.isHeld
       isDragged := h.isDragged
       pointer := if isActive then c.pointer.place else none },
      { c with held := h.held, focus := if losesFocus then unfocused else c.focus })

end Context

end WindowHost.Gui
