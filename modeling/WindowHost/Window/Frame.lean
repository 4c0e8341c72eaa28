import WindowHost.Number.Rounding
import WindowHost.Window.Pump

/-!
# The life of a frame

A frame is drawn, presented or read, and then the next one begins. `Window.showFrame` presents the
frame at hand, pumps events, paces, settles the cursor and begins the next frame. A window without a
surface is never shown; there a read ends the frame.
-/

namespace WindowHost.Window

variable {W α β Raw Frame : Type} [Scalar α] [Narrowing α β] (d : Devices W α Raw Frame)

/-- Begins the next frame with the renderer and with the widgets. -/
def prepareForNextFrame : WindowM W α β Unit := do
  act d.renderer.prepare
  act d.gui.prepare
  modify fun s => { s with drawn := false }

/-- Opens a window: refuses a flawed configuration, and settles the size of a visible one. -/
def openWith [Scalar β] (config : Config) (world : W) : Except Halt Unit × Window W α β :=
  let start : Window W α β :=
    { config
      world
      input := (Input.empty.addKeyListener ()).addMouseListener ()
      events := {}
      cursor := {}
      pacer := Pacing.Pacer.start (d.clock.now world)
      rate := Pacing.Rate.start (d.clock.now world)
      drawn := false }
  let opening : WindowM W α β Unit := do
    if let some flaw := config.flaw? then
      fail (.invalidConfig flaw)
    if config.showWindow then
      resize d
    prepareForNextFrame d
  opening.run.run start

/-- Draws the frame at hand, with the widgets as they are now. -/
def drawFrame : WindowM W α β Unit := do
  let frame ← ask d.gui.endFrame
  attempt (d.renderer.draw frame)
  modify fun s => { s with drawn := true }

/-- Draws the frame at hand unless that was done. -/
def ensureDrawn : WindowM W α β Unit := do
  unless (← get).drawn do
    drawFrame d

/-- Ends the frame after a read, if the window is never shown. -/
def finishRead : WindowM W α β Unit := do
  unless (← get).config.showWindow do
    prepareForNextFrame d

def pace : WindowM W α β Unit :=
  modify fun s =>
    let (_, pacer, world) := s.pacer.pace d.clock s.config.fpsLimit s.world
    { s with pacer, world }

/-- The title of a window that shows its frame rate. -/
def rateTitle (name : String) (rate : α) : String :=
  name ++ "  " ++ toFixedTwo (Scalar.exact rate) ++ " FPS"

/-- Counts the frame, and writes the frame rate into the title when it is due. -/
def countFrame : WindowM W α β Unit := do
  let s ← get
  let (report, rate) := s.rate.tick (d.clock.now s.world)
  set { s with rate }
  if let some (average : α) := report then
    act (d.platform.setTitle (rateTitle s.config.name average))

/-- What the widgets want of the mouse now. -/
def signal (w : W) : Cursor.Signal :=
  { desired := d.gui.desired w, wantsMouse := d.gui.wantsMouse w }

/-- Settles who drives the cursor. When it goes back to the widgets they are told. -/
def settleCursor : WindowM W α β Unit := do
  let s ← get
  let (cursor, world) := s.cursor.arbitrate (signal d s.world) d.platform.cursor s.world
  set { s with cursor, world }
  if cursor.applied = .guiControlled ∧ s.cursor.applied ≠ .guiControlled then
    act d.gui.reclaimCursor

/-- Presents the frame at hand, drawing it first if need be, and goes on to the next. Whether the
widgets may touch the cursor follows from the arbitration of the frame before. -/
def showFrame : WindowM W α β Unit := do
  requireVisible .showFrame
  ensureDrawn d
  attempt d.renderer.present
  pump d
  pace d
  countFrame d
  act (d.gui.suppressCursor (← get).cursor.suppressesGui)
  prepareForNextFrame d
  settleCursor d

def dumpImage : WindowM W α β Image.Picture := do
  ensureDrawn d
  let picture ← attempt d.renderer.dump
  finishRead d
  pure picture

/-- Writes the pixels of the frame at hand to a file. -/
def writeImage (path : String) : WindowM W α β Unit := do
  ensureDrawn d
  attempt (d.renderer.writeImage path)
  finishRead d

/-- Copies the depth values of the frame at hand into a target of their number. -/
def copyDepth (target : Array Float32) : WindowM W α β (Array Float32) := do
  ensureDrawn d
  let depth ← attempt (d.renderer.copyDepth target)
  finishRead d
  pure depth

end WindowHost.Window
