import WindowHost.Devices

/-!
# A record of device calls

`Devices.recorded` does what the given devices do and keeps a record of the calls in their order,
each with what it answered. Reading a state that a device only shows is not recorded.
-/

namespace WindowHost

/-- A call to a device with its answer. -/
inductive Call (α Raw Frame : Type) where
  | poll (batch : List (Report α Raw))
  | wait (batch : List (Report α Raw))
  | framebufferSize (size : Extent)
  | setCloseRequested (value : Bool)
  | setTitle (title : String)
  | setCursorVisible (value : Bool)
  | setCursorShape (shape : Cursor.Shape) (accepted : Bool)
  | draw (frame : Frame) (outcome : Except BackendError Unit)
  | present (outcome : Except BackendError Unit)
  | resize (size : Extent) (outcome : Except BackendError Unit)
  | dump (outcome : Except BackendError Image.Picture)
  | writeImage (path : String) (outcome : Except BackendError Unit)
  | copyDepth (target : Array Float32) (outcome : Except BackendError (Array Float32))
  | prepareRenderer
  | rawEvent (raw : Raw)
  | endFrame (frame : Frame)
  | suppressCursor (value : Bool)
  | reclaimCursor
  | prepareGui
  | sleepUntil (deadline : Instant)

/-- A call to the platform, the renderer or the widgets in words, where `frameText` and `rawText`
write frames and raw events. Readings of the size and sleeps have no words. -/
def Call.line? {α Raw Frame : Type} (rawText : Raw → String) (frameText : Frame → String) :
    Call α Raw Frame → Option String
  | .poll _ => some "platform.poll"
  | .wait _ => some "platform.wait"
  | .framebufferSize _ => none
  | .setCloseRequested v => some ("platform.set_close " ++ toString v)
  | .setTitle t => some ("platform.title " ++ t)
  | .setCursorVisible v => some ("platform.visible " ++ toString v)
  | .setCursorShape s accepted => some ("platform.shape " ++ s.name ++ " " ++ toString accepted)
  | .draw frame _ => some ("backend.draw " ++ frameText frame)
  | .present _ => some "backend.present"
  | .resize e _ => some ("backend.resize " ++ e.text)
  | .dump _ => some "backend.dump"
  | .writeImage path _ => some ("backend.write_image " ++ path)
  | .copyDepth target _ => some ("backend.copy_depth " ++ toString target.size)
  | .prepareRenderer => some "backend.prepare"
  | .rawEvent raw => some ("gui.raw " ++ rawText raw)
  | .endFrame _ => some "gui.end_frame"
  | .suppressCursor v => some ("gui.suppress " ++ toString v)
  | .reclaimCursor => some "gui.reclaim"
  | .prepareGui => some "gui.prepare"
  | .sleepUntil _ => none

def Call.deadline? {α Raw Frame : Type} : Call α Raw Frame → Option Instant
  | .sleepUntil deadline => some deadline
  | _ => none

/-- Whether a call writes the title. -/
def Call.isTitle {α Raw Frame : Type} : Call α Raw Frame → Bool
  | .setTitle _ => true
  | _ => false

/-- A world with the calls that were made in it, in their order. -/
structure Recorded (W α Raw Frame : Type) where
  world : W
  calls : List (Call α Raw Frame) := []

namespace Recorded

variable {W α Raw Frame : Type}

/-- A step without an answer, with its entry in the record. -/
def note (call : Call α Raw Frame) (f : W → W) (w : Recorded W α Raw Frame) :
    Recorded W α Raw Frame :=
  { world := f w.world, calls := w.calls ++ [call] }

/-- A step with an answer, with its entry in the record. -/
def noteAnswer {r : Type} (call : r → Call α Raw Frame) (f : W → r × W)
    (w : Recorded W α Raw Frame) : r × Recorded W α Raw Frame :=
  let (x, world) := f w.world
  (x, { world, calls := w.calls ++ [call x] })

end Recorded

open Recorded in
/-- The same devices in a world that records their calls. -/
def Devices.recorded {W α Raw Frame : Type} (d : Devices W α Raw Frame) :
    Devices (Recorded W α Raw Frame) α Raw Frame where
  platform :=
    { poll := noteAnswer .poll d.platform.poll
      wait := noteAnswer .wait d.platform.wait
      framebufferSize := noteAnswer .framebufferSize d.platform.framebufferSize
      closeRequested := fun w => d.platform.closeRequested w.world
      setCloseRequested := fun v => note (.setCloseRequested v) (d.platform.setCloseRequested v)
      setTitle := fun title => note (.setTitle title) (d.platform.setTitle title)
      cursor :=
        { setVisible := fun v => note (.setCursorVisible v) (d.platform.cursor.setVisible v)
          setShape := fun s => noteAnswer (.setCursorShape s) (d.platform.cursor.setShape s) }
      patience := fun w => d.platform.patience w.world }
  renderer :=
    { draw := fun frame => noteAnswer (.draw frame) (d.renderer.draw frame)
      present := noteAnswer .present d.renderer.present
      resize := fun size => noteAnswer (.resize size) (d.renderer.resize size)
      size := fun w => d.renderer.size w.world
      dump := noteAnswer .dump d.renderer.dump
      writeImage := fun path => noteAnswer (.writeImage path) (d.renderer.writeImage path)
      copyDepth := fun target => noteAnswer (.copyDepth target) (d.renderer.copyDepth target)
      prepare := note .prepareRenderer d.renderer.prepare }
  gui :=
    { onRawEvent := fun raw => note (.rawEvent raw) (d.gui.onRawEvent raw)
      endFrame := noteAnswer .endFrame d.gui.endFrame
      desired := fun w => d.gui.desired w.world
      wantsMouse := fun w => d.gui.wantsMouse w.world
      wantsKeyboard := fun w => d.gui.wantsKeyboard w.world
      suppressCursor := fun v => note (.suppressCursor v) (d.gui.suppressCursor v)
      reclaimCursor := note .reclaimCursor d.gui.reclaimCursor
      prepare := note .prepareGui d.gui.prepare }
  clock :=
    { now := fun w => d.clock.now w.world
      sleepUntil := fun deadline => note (.sleepUntil deadline) (d.clock.sleepUntil deadline) }

end WindowHost
