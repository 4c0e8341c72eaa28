import WindowHost.Gui.CursorWriter
import WindowHost.Native.Log

/-!
# A display

`Display` is a windowing system with at most one event loop and one window. Its events come in
batches, one for each pump of the loop. An event may be meant for a window of another program.
-/

namespace WindowHost.Native

/-- Something that a pump of the event loop brings. -/
inductive Arrival where
  | own (e : DisplayEvent)
  /-- An event of another window. -/
  | foreign (e : DisplayEvent)
  /-- The framebuffer has another size, and no event tells of it. -/
  | resizedSilently (size : Extent)
  deriving Repr

/-- The event of an arrival that is meant for this window. -/
def Arrival.event? : Arrival → Option DisplayEvent
  | .own e => some e
  | _ => none

/-- The size of the framebuffer after an arrival. -/
def Arrival.sizeAfter (size : Extent) : Arrival → Extent
  | .own (.resized size') | .resizedSilently size' => size'
  | _ => size

/-- Whether an arrival asks to close this window. -/
def Arrival.asksToClose : Arrival → Bool
  | .own .closeRequested => true
  | _ => false

/-- What one pump brings, and whether the loop then ends. -/
structure Batch where
  arrivals : List Arrival := []
  exits : Bool := false
  deriving Repr, Inhabited

/-- The state of a display. -/
structure Display where
  /-- The size of the framebuffer of a new window, if it is not the size that was asked for. -/
  newSize : Option Extent := none
  /-- Physical pixels for a point. -/
  scale : Float := 1
  refusesLoop : Bool := false
  refusesWindow : Bool := false
  loopCreated : Bool := false
  framebuffer : Extent := ⟨0, 0⟩
  batches : List Batch := []
  closeRequested : Bool := false
  cursorVisible : Bool := true
  cursorIcon : Cursor.NativeIcon := .default

namespace Display

/-- Creates the event loop and opens a window, which nobody has asked to close yet. A program can do
this once. -/
def openWindow (config : Config) (d : Display) : Except WindowError Entry × Display :=
  if d.loopCreated then (.error (.eventLoop .recreated), d)
  else
    let d := { d with loopCreated := true }
    if d.refusesLoop then (.error (.eventLoop .notSupported), d)
    else if d.refusesWindow then (.error (.nativeWindow "no window could be created"), d)
    else
      (.ok (.opened config.name config.size config.position config.showWindow),
        { d with framebuffer := d.newSize.getD config.size, closeRequested := false })

/-- Pumps the event loop once: the events of this window in their order. A request to close the
window, or the end of the loop, sets the mark that the window should close. -/
def pump (d : Display) : List (Report Float DisplayEvent) × Display :=
  let batch := d.batches.headD {}
  ((batch.arrivals.filterMap Arrival.event?).map DisplayEvent.report,
    { d with
      batches := d.batches.tail
      framebuffer := batch.arrivals.foldl Arrival.sizeAfter d.framebuffer
      closeRequested :=
        d.closeRequested || batch.arrivals.any Arrival.asksToClose || batch.exits })

def obey (d : Display) : Gui.CursorCommand → Display
  | .setVisible value => { d with cursorVisible := value }
  | .setIcon icon => { d with cursorIcon := icon }

end Display

end WindowHost.Native
