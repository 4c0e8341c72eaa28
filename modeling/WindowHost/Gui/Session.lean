import WindowHost.Gui.Floating
import WindowHost.Gui.Panel
import WindowHost.Gui.Toolkit

/-!
# Widgets over a native window

A `Session` is the state of a toolkit in a native window. Between frames it keeps what happened to
the pointer, with lengths in points; in a frame it declares sub-windows in a `Context`.
`Session.toolkit` is its interface.
-/

namespace WindowHost.Gui

/-- The input of a frame. -/
structure FrameInput where
  events : List PointerEvent
  /-- The size of the window, unless it has none. -/
  screen : Option Point

/-- The state of a toolkit in a native window. -/
structure Session where
  context : Context
  /-- What happened to the pointer since input was last taken. -/
  waiting : List PointerEvent := []
  /-- Where the pointer is in the window. -/
  known : Option Point := none
  /-- The sub-windows that were declared in this frame, the latest first. -/
  names : List String := []
  /-- Points in the widgets of the sub-window that was declared last. -/
  spots : List (Place × Point) := []
  /-- Whether the glyphs were painted before. -/
  glyphsSent : Bool := false

namespace Session

/-- A session in a window with so many physical pixels for a point. -/
def start (scale : Float) : Session := { context := { scale := scale.toFloat32 } }

def points (s : Session) (pixels : Float32) : Float32 := pixels / s.context.scale

def pointOf (s : Session) (x y : Float) : Point := ⟨s.points x.toFloat32, s.points y.toFloat32⟩

/-- Keeps something that happened to the pointer. -/
def await (e : PointerEvent) (s : Session) : Session := { s with waiting := s.waiting ++ [e] }

/-- How many points count as a line of scrolling. -/
def pointsPerLine : Float32 := 50

/-- Keeps what an event means to the pointer. A button counts only while the pointer is known. -/
def onEvent (e : Native.DisplayEvent) (s : Session) : Session :=
  match e with
  | .cursorMoved x y =>
    let p := s.pointOf x y
    { s with known := some p }.await (.moved p)
  | .cursorLeft => { s with known := none }.await .gone
  | .mouseInput (.other _) _ => s
  | .mouseInput b down =>
    match s.known with
    | some p => s.await (.button b down p)
    | none => s
  | .wheelLines dx dy => s.await (.scrolled ⟨dx * pointsPerLine, dy * pointsPerLine⟩)
  | .wheelPixels dx dy => s.await (.scrolled (s.pointOf dx dy))
  | _ => s

/-- Takes what has happened, for a window of that size. -/
def takeInput (size : Extent) (s : Session) : FrameInput × Session :=
  let side (n : UInt32) : Float32 := s.points (Float32.ofNat n.toNat)
  let isEmpty := size.width == 0 || size.height == 0
  ({ events := s.waiting
     screen := if isEmpty then none else some ⟨side size.width, side size.height⟩ },
    { s with waiting := [] })

/-- Begins a frame. A window without a size keeps the screen that it had. -/
def beginFrame (input : FrameInput) (s : Session) : Session :=
  let screen := match input.screen with
    | some size => .sized ⟨0, 0⟩ size
    | none => s.context.screen
  { s with context := s.context.beginFrame screen input.events, names := [] }

/-- Ends a frame. The glyphs are painted with the first one. -/
def endFrame (s : Session) : (Cursor.WidgetIcon × Painted (List String) Nat String) × Session :=
  let painted : Painted (List String) Nat String :=
    { primitives := s.names
      set := if s.glyphsSent then [] else [⟨0, true, "glyphs"⟩]
      free := []
      pixelsPerPoint := s.context.scale }
  ((s.context.frameIcon, painted), { s with context := s.context.endFrame, glyphsSent := true })

def setIcon (icon : Cursor.WidgetIcon) (s : Session) : Session :=
  { s with context := s.context.setIcon icon }

/-- Declares a sub-window. One that is folded has no values. -/
def declare (w : SubWindow) (cache : Label.Cache (List String)) (s : Session) :
    List Value × Label.Cache (List String) × Session :=
  let screen := s.context.screen
  let within (share : Float32 × Float32) : Point :=
    ⟨share.1 * screen.width, share.2 * screen.height⟩
  let region := Region.ofLayer .background screen screen true
  let (values, b) := (Ui.floating w.name (within w.corner) (within w.size) <|
    Widget.runAll [] 0 w.widgets).run { context := s.context, region, cache }
  (values.getD [], b.cache,
    { s with context := b.context, names := w.name :: s.names, spots := b.spots })

/-- The events of a click on a widget of the sub-window that was declared last. -/
def clickEvents (place : Place) (s : Session) : List Native.DisplayEvent :=
  match s.spots.lookup place with
  | some p =>
    let pixels (x : Float32) : Float := (x * s.context.scale).toFloat
    [.cursorMoved (pixels p.x) (pixels p.y), .mouseInput .left true, .mouseInput .left false]
  | none => []

def toolkit : Toolkit Session FrameInput (List String) Nat String where
  onEvent := onEvent
  takeInput := takeInput
  beginFrame := beginFrame
  endFrame := endFrame
  wantsMouse s := s.context.wantsMouse
  wantsKeyboard s := s.context.wantsKeyboard
  declare := declare

end Session

end WindowHost.Gui
