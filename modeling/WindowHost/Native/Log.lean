import WindowHost.Config
import WindowHost.Cursor.Icon
import WindowHost.Text.Quoted

/-!
# The log of a machine

What a windowing system and a graphics processor are told, entry by entry. `Entry.text` writes an
entry as a line.
-/

namespace WindowHost.Native

/-- An answer to the request for the next texture of a surface. -/
inductive Acquire where
  | good | timeout | lost | outdated
  deriving DecidableEq, Repr, Inhabited

def Acquire.all : List Acquire := [.good, .timeout, .lost, .outdated]

def Acquire.name : Acquire → String
  | .good => "Good"
  | .timeout => "Timeout"
  | .lost => "Lost"
  | .outdated => "Outdated"

/-- Something that the windowing system or the graphics processor was told. -/
inductive Entry where
  | opened (title : String) (size : Extent) (position : Int32 × Int32) (visible : Bool)
  | pumped (waiting : Bool)
  | titled (title : String)
  | cursorVisible (value : Bool)
  | cursorIcon (icon : Cursor.NativeIcon)
  | configured (size : Extent) (vsync : Bool)
  | acquired (answer : Acquire)
  /-- The canvas is scaled onto the surface. -/
  | scalingPass
  /-- The widgets are painted over it. -/
  | widgetPass
  | presented
  deriving DecidableEq, Repr

namespace Entry

def isTitle : Entry → Bool
  | .titled _ => true
  | _ => false

def text : Entry → String
  | .opened title size (x, y) visible =>
    "native.open " ++ Text.quoted title ++ " " ++ size.text ++ " at " ++ toString x.toInt ++ "," ++
      toString y.toInt ++ " visible " ++ toString visible
  | .pumped waiting => "native.pump " ++ if waiting then "wait" else "poll"
  | .titled title => "native.title " ++ title
  | .cursorVisible value => "native.visible " ++ toString value
  | .cursorIcon icon => "native.icon " ++ icon.name
  | .configured size vsync =>
    "gpu.configure " ++ size.text ++ " " ++ if vsync then "Fifo" else "Immediate"
  | .acquired .good => "gpu.acquire"
  | .acquired answer => "gpu.acquire " ++ answer.name
  | .scalingPass => "gpu.pass pixels_scaling_renderer_render_pass"
  | .widgetPass => "gpu.pass egui"
  | .presented => "gpu.present"

end Entry

end WindowHost.Native
