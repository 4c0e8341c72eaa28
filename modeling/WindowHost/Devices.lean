import WindowHost.Button
import WindowHost.Cursor.Arbiter
import WindowHost.Image.Pixmap
import WindowHost.Pacing.Clock

/-!
# The devices of a window

A window stands between four devices: the `Platform` that owns the native window and its events, the
`Renderer` that draws and presents frames, the `Gui` whose widgets are painted over them, and a
clock. Each is a record of functions on a world `W` that all four share, since the widgets and the
platform write the same native cursor.
-/

namespace WindowHost

/-- Something that happened at a display, with numbers `α`. -/
inductive Occurrence (α : Type) where
  | key (b : Button) (action : Action)
  | mouse (b : Button) (action : Action)
  /-- The cursor moved to a place in physical pixels, from the left and from the top. -/
  | cursorMoved (x y : α)
  | scrolled (dx dy : α)
  | resized (size : Extent)
  deriving Repr

/-- One event of a display: what it means to a window, if anything, and its raw form for the
widgets, if there is one. -/
structure Report (α Raw : Type) where
  occurrence : Option (Occurrence α)
  raw : Option Raw
  deriving Repr

/-- The native window. -/
structure Platform (W α Raw : Type) where
  /-- The events that are there, without waiting. -/
  poll : W → List (Report α Raw) × W
  /-- Waits until there are events. -/
  wait : W → List (Report α Raw) × W
  framebufferSize : W → Extent × W
  closeRequested : W → Bool
  setCloseRequested : Bool → W → W
  setTitle : String → W → W
  cursor : Cursor.Sink W
  /-- A bound on how often waiting can still change the size of the framebuffer. -/
  patience : W → Nat

/-- What draws frames, with the widgets' part of a frame in the form `Frame`. -/
structure Renderer (W Frame : Type) where
  draw : Frame → W → Except BackendError Unit × W
  present : W → Except BackendError Unit × W
  resize : Extent → W → Except BackendError Unit × W
  size : W → Extent
  dump : W → Except BackendError Image.Picture × W
  writeImage : String → W → Except BackendError Unit × W
  /-- The contents of a depth target after the copy. -/
  copyDepth : Array Float32 → W → Except BackendError (Array Float32) × W
  prepare : W → W

/-- The widgets over a frame. -/
structure Gui (W Raw Frame : Type) where
  onRawEvent : Raw → W → W
  /-- Closes the frame that is open and gives what is to be painted. -/
  endFrame : W → Frame × W
  desired : W → Cursor.GuiCursor
  wantsMouse : W → Bool
  wantsKeyboard : W → Bool
  /-- While set, the widgets must not change the native cursor. -/
  suppressCursor : Bool → W → W
  /-- The host no longer drives the native cursor: the widgets write theirs in the next frame in
  which they may, even if it is unchanged. -/
  reclaimCursor : W → W
  prepare : W → W

/-- All that a window works with. -/
structure Devices (W α Raw Frame : Type) where
  platform : Platform W α Raw
  renderer : Renderer W Frame
  gui : Gui W Raw Frame
  clock : Pacing.Clock W

end WindowHost
