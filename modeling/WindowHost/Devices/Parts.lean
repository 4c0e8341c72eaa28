import WindowHost.Devices

/-!
# Devices that share nothing

`Devices.ofParts` joins a platform, a renderer, widgets and a clock that each live in a world of
their own. What one of them does leaves the worlds of the others as they are.
-/

namespace WindowHost

/-- Four worlds side by side. -/
structure Parts (P R G C : Type) where
  platform : P
  renderer : R
  gui : G
  clock : C
  deriving Repr

namespace Parts

variable {P R G C : Type} {α Raw Frame : Type}

/-- A step of the platform alone. -/
def onPlatform {r : Type} (f : P → r × P) (w : Parts P R G C) : r × Parts P R G C :=
  let (x, platform) := f w.platform
  (x, { w with platform })

/-- A step of the renderer alone. -/
def onRenderer {r : Type} (f : R → r × R) (w : Parts P R G C) : r × Parts P R G C :=
  let (x, renderer) := f w.renderer
  (x, { w with renderer })

/-- A platform among other devices. -/
def liftPlatform (p : Platform P α Raw) : Platform (Parts P R G C) α Raw where
  poll := onPlatform p.poll
  wait := onPlatform p.wait
  framebufferSize := onPlatform p.framebufferSize
  closeRequested w := p.closeRequested w.platform
  setCloseRequested v w := { w with platform := p.setCloseRequested v w.platform }
  setTitle title w := { w with platform := p.setTitle title w.platform }
  cursor :=
    { setVisible := fun v w => { w with platform := p.cursor.setVisible v w.platform }
      setShape := fun s => onPlatform (p.cursor.setShape s) }
  patience w := p.patience w.platform

/-- A renderer among other devices. -/
def liftRenderer (r : Renderer R Frame) : Renderer (Parts P R G C) Frame where
  draw frame := onRenderer (r.draw frame)
  present := onRenderer r.present
  resize size := onRenderer (r.resize size)
  size w := r.size w.renderer
  dump := onRenderer r.dump
  writeImage path := onRenderer (r.writeImage path)
  copyDepth target := onRenderer (r.copyDepth target)
  prepare w := { w with renderer := r.prepare w.renderer }

/-- Widgets among other devices. -/
def liftGui (g : Gui G Raw Frame) : Gui (Parts P R G C) Raw Frame where
  onRawEvent raw w := { w with gui := g.onRawEvent raw w.gui }
  endFrame w :=
    let (frame, gui) := g.endFrame w.gui
    (frame, { w with gui })
  desired w := g.desired w.gui
  wantsMouse w := g.wantsMouse w.gui
  wantsKeyboard w := g.wantsKeyboard w.gui
  suppressCursor v w := { w with gui := g.suppressCursor v w.gui }
  reclaimCursor w := { w with gui := g.reclaimCursor w.gui }
  prepare w := { w with gui := g.prepare w.gui }

/-- A clock among other devices. -/
def liftClock (c : Pacing.Clock C) : Pacing.Clock (Parts P R G C) where
  now w := c.now w.clock
  sleepUntil deadline w := { w with clock := c.sleepUntil deadline w.clock }

end Parts

/-- Four independent devices as those of one window. -/
def Devices.ofParts {P R G C α Raw Frame : Type} (p : Platform P α Raw) (r : Renderer R Frame)
    (g : Gui G Raw Frame) (c : Pacing.Clock C) : Devices (Parts P R G C) α Raw Frame where
  platform := Parts.liftPlatform p
  renderer := Parts.liftRenderer r
  gui := Parts.liftGui g
  clock := Parts.liftClock c

end WindowHost
