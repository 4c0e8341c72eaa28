import WindowHost.Gui.Embedded
import WindowHost.Native.Display
import WindowHost.Native.Surface
import WindowHost.Window.Frame

/-!
# A window on a desktop

A `Desktop` is the world of a window on a real display: the display with its native cursor, the
surface, the embedded widgets, a disk and a clock, and the log of what was done to them.
`Desktop.devices` are its four devices; `Desktop.launch` and `Desktop.openWindow` open a window.
-/

namespace WindowHost.Native

open Gui (CursorCommand Embedded Painted Toolkit)

/-- A display with all that a window on it works with. -/
structure Desktop (T P N C : Type) where
  display : Display
  surface : Surface P N C
  gui : Embedded T
  disk : Storage.Disk := {}
  clock : Pacing.Manual := {}
  log : List Entry := []

namespace Desktop

variable {T In P N C : Type}

/-- Adds entries to the log. -/
def write (w : Desktop T P N C) (entries : List Entry) : Desktop T P N C :=
  { w with log := w.log ++ entries }

/-- The entry of a change of the native cursor. -/
def commandEntry : CursorCommand → Entry
  | .setVisible value => .cursorVisible value
  | .setIcon icon => .cursorIcon icon

/-- Changes the native cursor. -/
def obey (w : Desktop T P N C) (c : CursorCommand) : Desktop T P N C :=
  { w with display := w.display.obey c }.write [commandEntry c]

/-- Pumps the event loop. -/
def pump (waiting : Bool) (w : Desktop T P N C) :
    List (Report Float DisplayEvent) × Desktop T P N C :=
  let (reports, display) := w.display.pump
  (reports, { w with display }.write [.pumped waiting])

/-- The native window. Every batch that is left may bring a new size. -/
def platform : Platform (Desktop T P N C) Float DisplayEvent where
  poll := pump false
  wait := pump true
  framebufferSize w := (w.display.framebuffer, w)
  closeRequested w := w.display.closeRequested
  setCloseRequested v w := { w with display := { w.display with closeRequested := v } }
  setTitle title w := w.write [.titled title]
  cursor :=
    { setVisible := fun v w => w.obey (.setVisible v)
      setShape := fun s w => (true, w.obey (.setIcon s.icon)) }
  patience w := w.display.batches.length

/-- A step of the surface with its entries in the log. -/
def onSurface {r : Type}
    (f : Surface P N C → (List Entry × Except BackendError r) × Surface P N C)
    (w : Desktop T P N C) : Except BackendError r × Desktop T P N C :=
  let ((entries, outcome), surface) := f w.surface
  (outcome, { w with surface }.write entries)

def renderer [DecidableEq N] : Renderer (Desktop T P N C) (Painted P N C) where
  draw frame w := (.ok (), { w with surface := w.surface.draw frame })
  present := onSurface Surface.present
  resize size := onSurface (Surface.resize size)
  size w := w.surface.size
  dump w := (.ok w.surface.dump, w)
  writeImage path w :=
    match w.surface.writeImage path w.disk with
    | .ok disk => (.ok (), { w with disk })
    | .error e => (.error e, w)
  copyDepth target w := (w.surface.copyDepth target, w)
  prepare w := { w with surface := w.surface.prepare }

variable (k : Toolkit T In P N C)

def widgets : Gui (Desktop T P N C) DisplayEvent (Painted P N C) where
  onRawEvent e w := { w with gui := w.gui.onEvent k e }
  endFrame w :=
    let ((painted, commands), gui) := w.gui.endFrame k w.display.framebuffer
    (painted, commands.foldl obey { w with gui })
  desired w := w.gui.desired
  wantsMouse w := k.wantsMouse w.gui.toolkit
  wantsKeyboard w := k.wantsKeyboard w.gui.toolkit
  suppressCursor v w := { w with gui := { w.gui with suppressed := v } }
  reclaimCursor w := { w with gui := { w.gui with forwarding := w.gui.forwarding.reclaim } }
  prepare w := { w with gui := w.gui.prepare k w.display.framebuffer }

def deskClock : Pacing.Clock (Desktop T P N C) where
  now w := w.clock.now
  sleepUntil deadline w := { w with clock := w.clock.sleepUntil deadline }

def devices [DecidableEq N] :
    Devices (Desktop T P N C) Float DisplayEvent (Painted P N C) where
  platform := platform
  renderer := renderer
  gui := widgets k
  clock := deskClock

def subWindow (s : Gui.SubWindow) (w : Desktop T P N C) : List Gui.Value × Desktop T P N C :=
  let (values, gui) := w.gui.declare k w.display.framebuffer s
  (values, { w with gui })

/-- Brings further batches of events. -/
def enqueue (batches : List Batch) (w : Desktop T P N C) : Desktop T P N C :=
  { w with display := { w.display with batches := w.display.batches ++ batches } }

/-- A step of the surface that is not logged. -/
def mapSurface (f : Surface P N C → Surface P N C) (w : Desktop T P N C) : Desktop T P N C :=
  { w with surface := f w.surface }

/-- What became of an attempt to open a window, and what was logged on the way. -/
structure Launch (T P N C : Type) where
  outcome : Except Halt (Window (Desktop T P N C) Float Float32)
  log : List Entry

/-- Opens the native window, then the surface on it, then the widgets, and then the window over
them. Only at the end is the configuration looked at. -/
def launch [DecidableEq N] (toolkit : T) (config : Config) (display : Display) (gpu : Gpu) :
    Launch T P N C :=
  match display.openWindow config with
  | (.error e, _) => ⟨.error (.failed e), []⟩
  | (.ok opened, display) =>
    match Surface.openOn gpu display.framebuffer config.vsync with
    | .error e => ⟨.error (.failed (.backend e)), [opened]⟩
    | .ok (configured, surface) =>
      let desktop : Desktop T P N C :=
        { display, surface, gui := { toolkit }, log := [opened, configured] }
      match Window.openWith (devices k) config desktop with
      | (.error h, w) => ⟨.error h, w.world.log⟩
      | (.ok (), w) => ⟨.ok { w with world := { w.world with log := [] } }, w.world.log⟩

/-- Opens a window with a configuration that has no flaw. -/
def openWindow [DecidableEq N] (toolkit : T) (config : Config) (display : Display) (gpu : Gpu) :
    Launch T P N C :=
  match config.flaw? with
  | some flaw => ⟨.error (.failed (.invalidConfig flaw)), []⟩
  | none => launch k toolkit config display gpu

end Desktop

end WindowHost.Native
