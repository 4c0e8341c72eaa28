import WindowHost.Gui.Geometry

/-!
# Widget identities and layers

Widgets are declared anew in every frame; a `WidgetId` says which of them are the same. Areas of
widgets lie in `Layers` above one another, and `Layers.at?` is the topmost layer at a point.
-/

namespace WindowHost.Gui

/-- A part of something that has an identity. -/
inductive Part where
  | content | body | menu | bar | whole | edge | title | fold | list
  deriving DecidableEq, Repr

/-- A step from the identity of a thing to that of a thing in it. -/
inductive Step where
  /-- What has that label. -/
  | label (name : String)
  /-- What is grouped under that name. -/
  | group (name : String)
  /-- The nameless thing with that number. -/
  | number (n : Nat)
  | part (p : Part)
  deriving DecidableEq, Repr

/-- The identity of a widget, as the steps that lead to it, the last one first. -/
abbrev WidgetId := List Step

/-- A layer of the screen. -/
inductive Layer where
  | background
  | window (name : String)
  /-- What hangs open over the windows. -/
  | popup (id : WidgetId)
  deriving DecidableEq, Repr

namespace Layer

/-- Popups lie above windows, and windows above the background. -/
def rank : Layer → Nat
  | background => 0
  | window _ => 1
  | popup _ => 2

def id : Layer → WidgetId
  | background => [.part .whole]
  | window name => [.label name]
  | popup id => id

end Layer

/-- The room of a layer on the screen. -/
structure Area where
  /-- The left upper corner, or the left lower one. -/
  anchor : Point
  /-- Whether it stands on its anchor. -/
  isAbove : Bool := false
  size : Point := ⟨0, 0⟩

namespace Area

def corner (a : Area) : Point :=
  if a.isAbove then ⟨a.anchor.x, a.anchor.y - a.size.y⟩ else a.anchor

def rect (a : Area) : Rect := .sized a.corner a.size

/-- It with its left upper corner elsewhere. -/
def movedTo (a : Area) (corner : Point) : Area :=
  { a with anchor := if a.isAbove then ⟨corner.x, corner.y + a.size.y⟩ else corner }

end Area

/-- The layers of the screen. -/
structure Layers where
  /-- The areas as they were last laid out. -/
  areas : List (Layer × Area) := []
  /-- The layers from the lowest to the topmost. -/
  order : List Layer := []
  /-- The layers of this frame. -/
  shown : List Layer := []
  /-- The layers of the frame before. -/
  shownBefore : List Layer := []
  /-- The layers that come to the top when the frame ends. -/
  raised : List Layer := []

namespace Layers

/-- How far around its area a layer can be grasped: windows have edges. -/
def reach : Layer → Float32
  | .window _ => 5
  | _ => 0

def area? (s : Layers) (l : Layer) : Option Area := s.areas.lookup l

def isShown (s : Layers) (l : Layer) : Bool := s.shownBefore.contains l || s.shown.contains l

/-- The topmost layer at a point. -/
def at? (s : Layers) (p : Point) : Option Layer :=
  s.order.reverse.find? fun l =>
    s.isShown l && (s.area? l).any fun a => (a.rect.expand (reach l) (reach l)).contains p

/-- Adds a layer to those of the frame. -/
def enter (s : Layers) (l : Layer) : Layers :=
  { s with
    shown := s.shown.insert l
    order := if s.order.contains l then s.order else s.order ++ [l] }

def set (s : Layers) (l : Layer) (a : Area) : Layers :=
  { s.enter l with areas := (l, a) :: s.areas.filter (·.1 != l) }

/-- Brings a layer to the top when the frame ends. -/
def raise (s : Layers) (l : Layer) : Layers :=
  { s.enter l with raised := s.raised.insert l }

/-- The layers after the frame: by rank, and of one rank those above that were raised. -/
def endFrame (s : Layers) : Layers :=
  let key (l : Layer) : Nat := 2 * l.rank + if s.raised.contains l then 1 else 0
  { s with
    order := s.order.mergeSort fun a b => key a ≤ key b
    shown := []
    shownBefore := s.shown
    raised := [] }

end Layers

end WindowHost.Gui
