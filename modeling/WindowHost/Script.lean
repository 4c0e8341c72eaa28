import WindowHost.Devices.Parts

/-!
# Scripted devices

Devices whose answers are written down beforehand, to rehearse a window without a display. Batches
of events, sizes of the framebuffer and failures of the renderer are queues; when a queue is empty,
no events come, the size stays and the renderer succeeds. `Script.devices` joins the four devices.
-/

namespace WindowHost.Script

/-- A platform that plays back batches of events and sizes. -/
structure Screen (α Raw : Type) where
  /-- Batches for polling. -/
  polls : List (List (Report α Raw)) := []
  /-- Batches for waiting. -/
  waits : List (List (Report α Raw)) := []
  /-- Sizes that the next readings answer. -/
  sizes : List Extent := []
  size : Extent
  close : Bool := false
  /-- The shapes that the platform does not have. -/
  unsupported : List Cursor.Shape := []

namespace Screen

variable {α Raw : Type}

/-- The next batch for polling. -/
def poll (s : Screen α Raw) : List (Report α Raw) × Screen α Raw :=
  (s.polls.headD [], { s with polls := s.polls.tail })

/-- The next batch for waiting. -/
def wait (s : Screen α Raw) : List (Report α Raw) × Screen α Raw :=
  (s.waits.headD [], { s with waits := s.waits.tail })

/-- The size of the framebuffer, after the change that was due. -/
def framebufferSize (s : Screen α Raw) : Extent × Screen α Raw :=
  let size := s.sizes.headD s.size
  (size, { s with size, sizes := s.sizes.tail })

/-- The platform that plays a script. Each wait is followed by a reading of the size, so the sizes
that are left bound the waits that can help. -/
def platform : Platform (Screen α Raw) α Raw where
  poll := poll
  wait := wait
  framebufferSize := framebufferSize
  closeRequested := close
  setCloseRequested v s := { s with close := v }
  setTitle _ s := s
  cursor :=
    { setVisible := fun _ s => s
      setShape := fun shape s => (!s.unsupported.contains shape, s) }
  patience s := s.sizes.length

end Screen

/-- What a renderer can be asked to do and may fail to. -/
inductive Task where
  | draw | present | resize | dump | writeImage | copyDepth
  deriving DecidableEq, Repr

def Task.all : List Task := [.draw, .present, .resize, .dump, .writeImage, .copyDepth]

def Task.name : Task → String
  | .draw => "draw"
  | .present => "present"
  | .resize => "resize"
  | .dump => "dump"
  | .writeImage => "write_image"
  | .copyDepth => "copy_depth"

/-- A renderer that paints nothing. -/
structure Easel where
  size : Extent
  /-- Failures to come, each for the next call of its task. -/
  failures : List (Task × BackendError) := []

namespace Easel

/-- Performs a task unless a failure is due for it. -/
def perform {r : Type} (task : Task) (f : Easel → Except BackendError r × Easel) (e : Easel) :
    Except BackendError r × Easel :=
  match e.failures.find? (·.1 == task) with
  | some failure => (.error failure.2, { e with failures := e.failures.eraseP (·.1 == task) })
  | none => f e

/-- A picture of that size that numbers its pixels. -/
def numbered (size : Extent) : Image.Picture :=
  { pixels := Array.ofFn fun i : Fin size.area => UInt32.ofNat i, size }

/-- Depth values for a target that fits. -/
def depth (e : Easel) (target : Array Float32) : Except BackendError (Array Float32) :=
  if target.size = e.size.area then .ok (Array.replicate target.size 1)
  else .error (.depthBufferSize e.size.area target.size)

def renderer : Renderer Easel Nat where
  draw _ := perform .draw fun e => (.ok (), e)
  present := perform .present fun e => (.ok (), e)
  resize size := perform .resize fun e => (.ok (), { e with size })
  size := size
  dump := perform .dump fun e => (.ok (numbered e.size), e)
  writeImage _ := perform .writeImage fun e => (.ok (), e)
  copyDepth target := perform .copyDepth fun e => (e.depth target, e)
  prepare e := e

end Easel

/-- Widgets that want what they are told to want. -/
structure Wishes where
  desired : Cursor.GuiCursor := .default
  wantsMouse : Bool := false
  wantsKeyboard : Bool := false
  /-- The number of the frame at hand. -/
  frame : Nat := 0

namespace Wishes

def gui {Raw : Type} : Gui Wishes Raw Nat where
  onRawEvent _ w := w
  endFrame w := (w.frame, w)
  desired := desired
  wantsMouse := wantsMouse
  wantsKeyboard := wantsKeyboard
  suppressCursor _ w := w
  reclaimCursor w := w
  prepare w := { w with frame := w.frame + 1 }

end Wishes

/-- The world of all scripted devices. -/
abbrev Stage (α Raw : Type) := Parts (Screen α Raw) Easel Wishes Pacing.Manual

def devices {α Raw : Type} : Devices (Stage α Raw) α Raw Nat :=
  .ofParts Screen.platform Easel.renderer Wishes.gui Pacing.Manual.clock

end WindowHost.Script
