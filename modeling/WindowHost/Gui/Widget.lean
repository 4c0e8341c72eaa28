import WindowHost.Label.Cache
import WindowHost.Number.Word

/-!
# Widgets

A `Widget` is what a host program declares: a label and the value that the host program holds. A
`Value` is what it gets back after the user's action, and a `Place` is where in a list of widgets a
widget stands.
-/

namespace WindowHost.Gui

open Label (ItemList)

/-- A widget with its label and the value that the host program holds for it. -/
inductive Widget where
  | text (label : String)
  | separator
  | progressBar
  | checkbox (label : String) (value : Bool)
  | selectable (label : String) (value : Bool)
  | button (label : String)
  | radio (label : String) (value : Bool)
  /-- A handle that the user drags along a scale. -/
  | sliderInt (label : String) (value low high : Int32)
  | sliderFloat (label : String) (value low high : Single)
  | inputInt (label : String) (value : Int32)
  | inputFloat (label : String) (value : Single)
  /-- A number that is kept between two bounds, which may be given in either order. Dragging it
  changes it by so much for a point. -/
  | dragInt (label : String) (value : Int32) (speed : Float) (bound bound' : Int32)
  | dragFloat (label : String) (value : Single) (speed : Float) (bound bound' : Single)
  | colour (label : String) (channels : List Float32)
  | combo (label : String) (selected : Nat) (list : ItemList)
  | listBox (label : String) (selected : Nat) (list : ItemList) (rows : Nat)
  | tabBar (tabs : List String) (selected : Nat)
  /-- A list that shows only while its heading is open. -/
  | node (label : String) (body : List Widget)
  /-- A checkbox with widgets that show only while it is ticked. -/
  | detail (label : String) (value : Bool) (body : List Widget)
  | row (body : List Widget)
  | indent (label : String) (body : List Widget)

/-- What a widget gives back. -/
inductive Value where
  | nothing
  | flag (b : Bool)
  | int (n : Int32)
  | float (x : Float32)
  | floats (xs : List Float32)
  | index (n : Nat)
  | several (vs : List Value)

/-- Where a widget or one of its items stands. -/
structure Place where
  /-- The numbers in the lists of widgets from the outermost inwards. -/
  path : List Nat
  item : Option Nat := none
  deriving DecidableEq, Repr

/-- A floating window of widgets. Its place and its size are fractions of the whole window. -/
structure SubWindow where
  name : String
  corner : Float32 × Float32
  size : Float32 × Float32
  widgets : List Widget

end WindowHost.Gui
