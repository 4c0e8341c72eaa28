import WindowHost.Button.Vocabulary
import WindowHost.Devices
import WindowHost.Event.Queue
import WindowHost.Input
import WindowHost.Pacing.Pacer
import WindowHost.Pacing.Rate

/-!
# The state of a window

A `Window` holds the settings, the world of its devices, and what it keeps of input, events, cursor
and frame timing. Its operations run in `WindowM`: an operation that fails keeps what it has done so
far. A `Halt` is an error, or the case that a window waits for a usable size that cannot come.
-/

namespace WindowHost

/-- A window in the world `W`, with numbers `α` for display coordinates and times, and `β` for the
place of the cursor. The single listener of its input is the event queue. -/
structure Window (W α β : Type) where
  config : Config
  world : W
  input : Input α β Unit
  events : Event.Queue
  cursor : Cursor.Arbiter
  pacer : Pacing.Pacer α
  rate : Pacing.Rate
  /-- Whether the frame at hand was drawn. -/
  drawn : Bool

/-- Why an operation did not finish. -/
inductive Halt where
  | failed (error : WindowError)
  /-- No event is left that could end the wait for a usable size. -/
  | stalled
  deriving DecidableEq, Repr

/-- Operations of a window. -/
abbrev WindowM (W α β : Type) := ExceptT Halt (StateM (Window W α β))

namespace Window

variable {W α β : Type}

/-- Fails with an error of the window. -/
def fail {r : Type} (e : WindowError) : WindowM W α β r := throw (.failed e)

/-- A step of a device. -/
def act (f : W → W) : WindowM W α β Unit := modify fun s => { s with world := f s.world }

/-- A step of a device that answers. -/
def ask {r : Type} (f : W → r × W) : WindowM W α β r :=
  modifyGet fun s =>
    let (x, world) := f s.world
    (x, { s with world })

/-- A step of the renderer that may fail. -/
def attempt {r : Type} (f : W → Except BackendError r × W) : WindowM W α β r := do
  match ← ask f with
  | .ok x => pure x
  | .error e => fail (.backend e)

/-- Refuses an operation that needs a visible surface. -/
def requireVisible (operation : SurfaceOperation) : WindowM W α β Unit := do
  unless (← get).config.showWindow do
    fail (.noVisibleSurface operation)

/-- The event that a notice puts into the queue; a key that repeats puts in none. -/
def eventOf? (n : Notice Unit) : Option Event :=
  match n.action with
  | .press => some ⟨.press, n.button.label⟩
  | .release => some ⟨.release, n.button.label⟩
  | .autoRepeat => none

/-- Input after a transition, with the notices of it turned into events. -/
def withInput (s : Window W α β) (change : Input α β Unit × List (Notice Unit)) : Window W α β :=
  { s with
    input := change.1
    events := (change.2.filterMap eventOf?).foldl Event.Queue.push s.events }

/-- What an occurrence does to the state of a window. A new size has to be settled with the devices
and is not taken from here. -/
def receive [Scalar α] [Narrowing α β] (s : Window W α β) : Occurrence α → Window W α β
  | .key b action => s.withInput (s.input.key b action)
  | .mouse b action => s.withInput (s.input.mouse b action)
  | .cursorMoved x y => { s with input := s.input.moveCursor x y s.config.size }
  | .scrolled dx dy => { s with input := s.input.addScroll dx dy }
  | .resized _ => s

end Window

end WindowHost
