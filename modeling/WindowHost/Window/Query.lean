import WindowHost.Window.Pump

/-!
# What a host program asks of a window

Whether the window runs, which buttons are down, where the cursor is, what was scrolled, which
events have come, and which cursor the host program wants.
-/

namespace WindowHost.Window

variable {W α β Raw Frame : Type} (d : Devices W α Raw Frame)

/-- Whether nobody has asked to close the window; a window without a surface always runs. -/
def isRunning (s : Window W α β) : Bool :=
  !s.config.showWindow || !d.platform.closeRequested s.world

/-- Asks to close a visible window, or takes that back. -/
def requestStop (stop : Bool) : WindowM W α β Unit := do
  if (← get).config.showWindow then
    act (d.platform.setCloseRequested stop)

/-- Whether a button of that name is down; no button has an unknown name. -/
def isPressed (s : Window W α β) (name : String) : Bool :=
  match Button.ofName name with
  | .ok buttons => buttons.any s.input.isPressed
  | .error _ => false

/-- Whether a button of one of the names is down. -/
def isAnyPressed (s : Window W α β) (names : List String) : Bool := names.any s.isPressed

/-- The place of the cursor as fractions of the window, from the left and from the bottom. -/
def cursorPosition [Scalar β] : WindowM W α β (β × β) := do
  requireVisible .cursorPosition
  let (x, y) := (← get).input.position
  pure (x, Scalar.ofNat 1 - y)

def takeScrollDelta [Scalar α] : WindowM W α β (α × α) := do
  requireVisible .takeScrollDelta
  modifyGet fun s =>
    let (delta, input) := s.input.takeScroll
    (delta, { s with input })

/-- Pumps, and takes all events that pass the filter. -/
def pollEvents [Scalar α] [Narrowing α β] (filter : Event.Kind) : WindowM W α β (List Event) := do
  requireVisible .pollEvents
  pump d
  modifyGet fun s =>
    let (taken, events) := s.events.drain filter
    (taken, { s with events })

/-- Pumps, and moves the first event that passes the filter into the current slot. -/
def pollOneEvent [Scalar α] [Narrowing α β] (filter : Event.Kind) : WindowM W α β Bool := do
  requireVisible .pollOneEvent
  pump d
  modifyGet fun s =>
    let (found, events) := s.events.consumeOne filter
    (found, { s with events })

def currentEvent : WindowM W α β Event := do
  requireVisible .currentEvent
  pure (← get).events.current

def setCurrentEvent (e : Event) : WindowM W α β Unit := do
  requireVisible .setCurrentEvent
  modify fun s => { s with events := s.events.setCurrent e }

/-- Asks for a cursor by its number; it is settled at the end of the next frame. -/
def setCursor (index : Int32) (force : Bool) : WindowM W α β Unit := do
  requireVisible .setCursor
  match Cursor.Request.ofIndex index force with
  | .ok request => modify fun s => { s with cursor := s.cursor.setRequest request }
  | .error e => fail e

def setCursorRequest (request : Cursor.Request) : WindowM W α β Unit := do
  requireVisible .setCursor
  modify fun s => { s with cursor := s.cursor.setRequest request }

def appliedCursor (s : Window W α β) : Cursor.Applied := s.cursor.applied

def guiWantsMouse : WindowM W α β Bool := do
  requireVisible .guiWantsMouse
  pure (d.gui.wantsMouse (← get).world)

def guiWantsKeyboard : WindowM W α β Bool := do
  requireVisible .guiWantsKeyboard
  pure (d.gui.wantsKeyboard (← get).world)

/-- The size of the frames. -/
def shape (s : Window W α β) : Extent := d.renderer.size s.world

end WindowHost.Window
