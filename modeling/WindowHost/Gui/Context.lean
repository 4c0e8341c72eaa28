import WindowHost.Cursor.Icon
import WindowHost.Gui.Colour
import WindowHost.Gui.Layer
import WindowHost.Gui.Pointer

/-!
# The context of widgets

A `Context` is what widgets share in a frame and what is kept from frame to frame: the pointer, the
layers, which widget is held, which one has the keyboard, and what the widgets remember.
`Context.beginFrame` and `Context.endFrame` enclose a frame; `Context.wantsMouse` and
`Context.wantsKeyboard` tell whether the widgets use what the user does.
-/

namespace WindowHost.Gui

open Cursor (WidgetIcon)

/-- What a widget reacts to. -/
structure Sense where
  click : Bool := false
  drag : Bool := false

/-- A widget on the screen. -/
structure Site where
  id : WidgetId
  layer : Layer
  rect : Rect
  sense : Sense

/-- How a sub-window is grasped: to be moved, or by some of its edges. -/
structure Grip where
  layer : Layer
  /-- Where the sub-window was. -/
  start : Rect
  left : Bool := false
  right : Bool := false
  top : Bool := false
  bottom : Bool := false

/-- What opens and closes. -/
structure Fold where
  isOpen : Bool
  /-- Whether it was ever opened or closed. -/
  turned : Bool := false
  /-- How high its content is. -/
  height : Option Float32 := none

/-- The size of the content of a sub-window. -/
structure Extents where
  desired : Point
  content : Point := ⟨0, 0⟩
  /-- The size that the user wants. -/
  requested : Option Point := none

/-- A list that can be scrolled. -/
structure Scroll where
  offset : Float32 := 0
  /-- Whether there is more than can be seen. -/
  overflows : Bool := false

/-- The text of a number that is being edited, and its value. -/
structure Draft where
  text : String
  value : Float

/-- What widgets remember, by their identities. -/
structure Notes where
  folds : List (WidgetId × Fold) := []
  extents : List (Layer × Extents) := []
  scrolls : List (WidgetId × Scroll) := []
  drafts : List (WidgetId × Draft) := []
  /-- The exact values of numbers that are being dragged. -/
  dragged : List (WidgetId × Float) := []
  /-- The hues of colours. -/
  tones : List (Light × Tone) := []
  /-- The popup that hangs open. -/
  popup : Option WidgetId := none

/-- The widgets that the user holds. -/
structure Held where
  click : Option WidgetId := none
  drag : Option WidgetId := none
  /-- Whether a sub-window is dragged, which gives way to any widget. -/
  dragsWindow : Bool := false
  grip : Option Grip := none
  /-- Whether a widget that can be dragged was under the pointer in this frame. -/
  dragInterest : Bool := false

/-- Which widget has the keyboard. -/
structure Focus where
  current : Option WidgetId := none
  /-- Which widget had it when the frame began. -/
  before : Option WidgetId := none

/-- The context of widgets. -/
structure Context where
  /-- Physical pixels for a point. -/
  scale : Float32 := 1
  /-- Whether it takes time to open and to close something. -/
  isSmooth : Bool := true
  screen : Rect := ⟨0, 0, 10000, 10000⟩
  pointer : Pointer := {}
  layers : Layers := {}
  held : Held := {}
  focus : Focus := {}
  notes : Notes := {}
  /-- The widgets that were declared in this frame. -/
  declared : List WidgetId := []
  /-- The widgets of this frame where they can be hit. -/
  sites : List Site := []
  /-- The widgets of the frame before. -/
  sitesBefore : List Site := []
  /-- The cursor that widgets ask for. -/
  icon : WidgetIcon := .default
  /-- Whether the text of a label is being selected. -/
  isSelecting : Bool := false

namespace Context

def setIcon (icon : WidgetIcon) (c : Context) : Context := { c with icon }

def note (f : Notes → Notes) (c : Context) : Context := { c with notes := f c.notes }

/-- The place nearest to one that is at whole pixels. -/
def toPixels (c : Context) (p : Point) : Point := ⟨toPixel c.scale p.x, toPixel c.scale p.y⟩

/-- Lets go of what cannot be held any longer. -/
def release (p : Pointer) (h : Held) : Held :=
  let isLoose := p.down.isEmpty || p.latest.isNone
  { h with
    click := if isLoose || !p.mayClick then none else h.click
    drag := if isLoose then none else h.drag
    grip := if p.down.isEmpty then none else h.grip
    dragInterest := false }

/-- Begins a frame on a screen of that size. -/
def beginFrame (screen : Rect) (events : List PointerEvent) (c : Context) : Context :=
  { c with
    screen
    pointer := c.pointer.advance events
    layers := c.layers.set .background { anchor := screen.corner, size := screen.size }
    held := release c.pointer c.held
    focus := { c.focus with before := c.focus.current }
    declared := []
    sites := []
    sitesBefore := c.sites }

/-- Ends a frame. A widget that has the keyboard and was not declared loses it. -/
def endFrame (c : Context) : Context :=
  let isLost := c.focus.current == c.focus.before &&
    c.focus.current.any fun id => !c.declared.contains id
  { c with
    layers := c.layers.endFrame
    focus := if isLost then { c.focus with current := none } else c.focus
    icon := .default
    isSelecting := c.isSelecting && !c.pointer.isReleasing }

def frameIcon (c : Context) : WidgetIcon := if c.isSelecting then .text else c.icon

/-- Whether the pointer is over widgets. -/
def isOver (c : Context) : Bool :=
  match c.pointer.place with
  | some p => match c.layers.at? p with
    | some .background => !c.screen.contains p
    | some _ => true
    | none => false
  | none => false

def wantsMouse (c : Context) : Bool :=
  c.held.click.isSome || c.held.drag.isSome || c.pointer.down.isEmpty && c.isOver

def wantsKeyboard (c : Context) : Bool := c.focus.current.isSome

/-- Whether a widget lost the keyboard in this frame. -/
def hasLostFocus (c : Context) (id : WidgetId) : Bool :=
  c.focus.before == some id && c.focus.current != some id

/-- Keeps a rectangle on the screen, as far as it fits. -/
def keepOnScreen (c : Context) (r : Rect) : Point :=
  let s := c.screen
  let dx := max (r.width - s.width) 0
  let dy := max (r.height - s.height) 0
  c.toPixels
    ⟨max (min r.left (s.right + dx - r.width)) (s.left - dx),
      max (min r.top (s.bottom + dy - r.height)) (s.top - dy)⟩

end Context

end WindowHost.Gui
