/-!
# Painted frames

What the widgets hand to a renderer for a frame: shapes to paint, and changes to the textures that
the shapes use. Frames that were drawn but not presented are merged, since the changes to textures
build on one another.
-/

namespace WindowHost.Gui

/-- The output of a frame, with shapes `P`, updates of textures `T`, names of textures `N`, and a
scale in numbers `S`. -/
structure Frame (P T N S : Type) where
  /-- What to paint. -/
  primitives : P
  /-- Updates of textures before painting, in their order. -/
  set : List T
  /-- Textures to drop after painting. -/
  free : List N
  /-- Physical pixels for a point of the widgets. -/
  pixelsPerPoint : S
  deriving Repr

/-- The frame that stands for both: the newer shapes, and the changes to textures of both. -/
def Frame.merge {P T N S : Type} (older newer : Frame P T N S) : Frame P T N S where
  primitives := newer.primitives
  set := older.set ++ newer.set
  free := older.free ++ newer.free
  pixelsPerPoint := newer.pixelsPerPoint

end WindowHost.Gui
