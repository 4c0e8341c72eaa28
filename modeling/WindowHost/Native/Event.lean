import WindowHost.Devices

/-!
# Events of a native display

A `DisplayEvent` is what a windowing system reports about one window. `DisplayEvent.occurrence?`
reduces it to what a window reacts to; all other events matter only to the widgets.
-/

namespace WindowHost.Native

/-- A key as the keyboard reports it: by its place, or by a number. -/
inductive PhysicalKey where
  | known (k : Key)
  | unknown (n : NativeKey)
  deriving DecidableEq, Repr

def PhysicalKey.button : PhysicalKey → Button
  | .known k => .key k
  | .unknown n => .native n

/-- An event of a native window. -/
inductive DisplayEvent where
  | keyboardInput (key : PhysicalKey) (down isRepeat : Bool)
  | mouseInput (button : MouseButton) (down : Bool)
  | cursorMoved (x y : Float)
  | cursorLeft
  /-- Scrolling by lines, as a wheel reports it. -/
  | wheelLines (dx dy : Float32)
  /-- Scrolling by pixels, as a touchpad reports it. -/
  | wheelPixels (dx dy : Float)
  | resized (size : Extent)
  | closeRequested
  /-- An event that no part of a window reacts to. -/
  | other
  deriving Repr

/-- The number of pixels that count as a line of scrolling. -/
def pixelsPerLine : Float := 50

/-- What an event means to a window. -/
def DisplayEvent.occurrence? : DisplayEvent → Option (Occurrence Float)
  | .keyboardInput key down isRepeat => some (.key key.button (Action.ofState down isRepeat))
  | .mouseInput button down => some (.mouse (.mouse button) (Action.ofState down false))
  | .cursorMoved x y => some (.cursorMoved x y)
  | .wheelLines dx dy => some (.scrolled dx.toFloat dy.toFloat)
  | .wheelPixels dx dy => some (.scrolled (dx / pixelsPerLine) (dy / pixelsPerLine))
  | .resized size => some (.resized size)
  | .cursorLeft | .closeRequested | .other => none

def DisplayEvent.report (e : DisplayEvent) : Report Float DisplayEvent :=
  ⟨e.occurrence?, some e⟩

end WindowHost.Native
