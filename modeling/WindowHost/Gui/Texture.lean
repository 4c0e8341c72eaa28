import WindowHost.Gui.Frame

/-!
# Textures

A renderer keeps the textures that shapes are painted with. `Textures.duringPaint` and
`Textures.afterPaint` are its textures while it paints a frame and once it is done: updates come
before painting and drops after it.
-/

namespace WindowHost.Gui

/-- A change to a texture: a new content for the whole of it, or for a part of one that is there. -/
structure TextureUpdate (N C : Type) where
  name : N
  whole : Bool
  patch : C
  deriving Repr

/-- The textures by name, each as what was written to it since it was last replaced. -/
abbrev Textures (N C : Type) := N → Option (List C)

/-- A frame of widgets for painting with textures. -/
abbrev Painted (P N C : Type) := Frame P (TextureUpdate N C) N Float32

namespace Textures

variable {P N C : Type} [DecidableEq N]

def none : Textures N C := fun _ => Option.none

/-- The textures after a change. A part of a texture that is not there is lost. -/
def update (t : Textures N C) (u : TextureUpdate N C) : Textures N C := fun n =>
  if n = u.name then if u.whole then some [u.patch] else (t n).map (· ++ [u.patch]) else t n

def drop (t : Textures N C) (name : N) : Textures N C := fun n =>
  if n = name then Option.none else t n

/-- The textures that a frame is painted with. -/
def duringPaint (t : Textures N C) (frame : Painted P N C) : Textures N C :=
  frame.set.foldl update t

/-- The textures that are left when a frame is painted. -/
def afterPaint (t : Textures N C) (frame : Painted P N C) : Textures N C :=
  frame.free.foldl drop (t.duringPaint frame)

end Textures

end WindowHost.Gui
