import WindowHost.Gui.CursorWriter
import WindowHost.Gui.Forwarding
import WindowHost.Gui.Toolkit

/-!
# Widgets in a native window

`Embedded` embeds a toolkit in a native window. It keeps a frame of the toolkit open while widgets
may be declared, forwards the cursor of the widgets unless the host program drives it, and keeps the
prepared item lists. What it writes to the native cursor comes out as a list of commands.
-/

namespace WindowHost.Gui

/-- A toolkit with what its embedding keeps. -/
structure Embedded (T : Type) where
  toolkit : T
  writer : CursorWriter := {}
  cache : Label.Cache (List String) := {}
  forwarding : Forwarding := {}
  /-- What the widgets asked for in the last frame that ended. -/
  desired : Cursor.GuiCursor := .default
  suppressed : Bool := false
  frameOpen : Bool := false

namespace Embedded

variable {T In P N C : Type} (k : Toolkit T In P N C)

/-- Opens a frame for a window of that size unless one is open. -/
def openFrame (size : Extent) (g : Embedded T) : Embedded T :=
  if g.frameOpen then g
  else
    let (input, toolkit) := k.takeInput size g.toolkit
    { g with toolkit := k.beginFrame input toolkit, frameOpen := true }

def onEvent (e : Native.DisplayEvent) (g : Embedded T) : Embedded T :=
  { g with writer := g.writer.observe e, toolkit := k.onEvent e g.toolkit }

/-- Ends the frame, with the changes of the native cursor that come with it. A cursor that was given
back to the widgets is written even if it is the one they had before. -/
def endFrame (size : Extent) (g : Embedded T) :
    (Painted P N C × List CursorCommand) × Embedded T :=
  let g := openFrame k size g
  let ((requested, painted), toolkit) := k.endFrame g.toolkit
  let (handed, forwarding) := g.forwarding.forward requested g.suppressed
  let (commands, writer) := g.writer.write handed
  let (due, forwarding) := forwarding.takeReclaim g.suppressed
  let commands := commands ++ if due then CursorCommand.showing requested else []
  ((painted, commands),
    { g with toolkit, writer, forwarding, desired := requested.wish, frameOpen := false })

/-- Begins the next frame. A frame that nothing has drawn is closed first and is lost. -/
def prepare (size : Extent) (g : Embedded T) : Embedded T :=
  let g := if g.frameOpen then { g with toolkit := (k.endFrame g.toolkit).2, frameOpen := false }
    else g
  openFrame k size { g with cache := g.cache.endFrame }

/-- Declares a sub-window, in a new frame if none is open. -/
def declare (size : Extent) (w : SubWindow) (g : Embedded T) : List Value × Embedded T :=
  let g := openFrame k size g
  let (values, cache, toolkit) := k.declare w g.cache g.toolkit
  (values, { g with cache, toolkit })

end Embedded

end WindowHost.Gui
