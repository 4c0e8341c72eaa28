import WindowHost.Gui.Session
import WindowHost.Native.Desktop
import WindowHost.Window.Query

/-!
# A demonstration

A window with one panel of controls, which choose a cursor and a tint and show the state of the
window. It runs until it is closed or Escape is pressed. `Demo.play` runs it on a display.
-/

namespace WindowHost.Demo

open Gui (Session SubWindow Value Widget)
open Native (Batch Desktop Display Gpu)

/-- What the controls hold. -/
structure Settings where
  /-- The number of the chosen cursor. -/
  mode : Nat := 0
  tint : List Float32 := [0.2, 0.4, 0.8]
  showDepth : Bool := false

abbrev Desk := Desktop Session (List String) Nat String

def devices : Devices Desk Float Native.DisplayEvent (Gui.Painted (List String) Nat String) :=
  Desktop.devices Session.toolkit

def config : Config := { name := "Window Runtime Demo", size := ⟨1024, 768⟩, fpsLimit := 60 }

/-- The cursors to choose from. -/
def modes : Label.ItemList := ⟨0, ["Arrow", "Hidden", "Hand"]⟩

/-- The number by which the window knows the chosen cursor. -/
def cursorIndex (mode : Nat) : Int32 :=
  match mode with
  | 0 => Cursor.defaultIndex
  | 1 => Cursor.hiddenIndex
  | _ => Cursor.Shape.hand.index

/-- The controls, for a framebuffer of that size and the cursor at that place. -/
def controls (s : Settings) (shape : Extent) (x y : Float32) : SubWindow where
  name := "Controls"
  corner := (0.02, 0.02)
  size := (0.3, 0.4)
  widgets :=
    [.text ("Framebuffer " ++ shape.text),
      .text ("Cursor (" ++ toFixedTwo (Scalar.exact x) ++ ", " ++ toFixedTwo (Scalar.exact y) ++
        ")"),
      .combo "Cursor" s.mode modes, .colour "Tint" s.tint,
      .detail "Depth info" s.showDepth [.text "Depth is cleared to 1.0 every frame"]]

/-- The settings that the controls give back. -/
def Settings.after (s : Settings) (values : List Value) : Settings :=
  match values with
  | _ :: _ :: .index mode :: .floats tint :: .flag showDepth :: _ => { mode, tint, showDepth }
  | _ => s

/-- One round: events, controls, cursor and frame. -/
def round (s : Settings) : WindowM Desk Float Float32 Settings := do
  let events ← Window.pollEvents devices .press
  if events.any (·.name == "Escape") then
    Window.requestStop devices true
  let (x, y) ← Window.cursorPosition
  let shape := (← get).shape devices
  let values ← Window.ask (Desktop.subWindow Session.toolkit (controls s shape x y))
  let s := s.after values
  Window.setCursor (cursorIndex s.mode) false
  Window.showFrame devices
  pure s

/-- Rounds until the window is closed, at most as many as given. -/
def rounds : Nat → Settings → WindowM Desk Float Float32 Unit
  | 0, _ => pure ()
  | n + 1, s => do
    if (← get).isRunning devices then
      let s ← round s
      rounds n s

/-- Runs the demonstration on a display that is closed after its last batch of events. The outcome
is an error, if one ended it, and the log. -/
def play (display : Display) (gpu : Gpu) : Except Halt Unit × List Native.Entry :=
  let batches := display.batches ++ [({ arrivals := [.own .closeRequested] } : Batch)]
  let start := Session.start display.scale
  let launch := Desktop.openWindow Session.toolkit start config { display with batches } gpu
  match launch.outcome with
  | .error h => (.error h, launch.log)
  | .ok window =>
    let (outcome, window) := (rounds (batches.length + 1) {}).run.run window
    (outcome, launch.log ++ window.world.log)

end WindowHost.Demo
