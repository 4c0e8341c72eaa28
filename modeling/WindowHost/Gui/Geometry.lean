/-!
# Points and rectangles

Places and lengths are in points, from the left and from the top. A `Rect` includes its edges.
-/

namespace WindowHost.Gui

/-- A place in the window, or a distance between two places. -/
structure Point where
  x : Float32
  y : Float32
  deriving Repr, Inhabited

namespace Point

def plus (p q : Point) : Point := ⟨p.x + q.x, p.y + q.y⟩

def minus (p q : Point) : Point := ⟨p.x - q.x, p.y - q.y⟩

def distance (p q : Point) : Float32 :=
  let d := p.minus q
  Float32.sqrt (d.x * d.x + d.y * d.y)

/-- The larger of both coordinates. -/
def atLeast (p q : Point) : Point := ⟨max p.x q.x, max p.y q.y⟩

/-- The smaller of both coordinates. -/
def atMost (p q : Point) : Point := ⟨min p.x q.x, min p.y q.y⟩

end Point

/-- A rectangle with upright sides. -/
structure Rect where
  left : Float32
  top : Float32
  right : Float32
  bottom : Float32
  deriving Repr, Inhabited

namespace Rect

/-- The rectangle with that corner and that size. -/
def sized (corner size : Point) : Rect :=
  ⟨corner.x, corner.y, corner.x + size.x, corner.y + size.y⟩

/-- The left upper corner. -/
def corner (r : Rect) : Point := ⟨r.left, r.top⟩

def width (r : Rect) : Float32 := r.right - r.left

def height (r : Rect) : Float32 := r.bottom - r.top

def size (r : Rect) : Point := ⟨r.width, r.height⟩

/-- The upper edge between two places from the left. -/
def topEdge (r : Rect) (left right : Float32) : Rect := ⟨left, r.top, right, r.top⟩

def middle (r : Rect) : Float32 := (r.top + r.bottom) / 2

/-- Whether it has an inside. -/
def isPositive (r : Rect) : Bool := r.left < r.right && r.top < r.bottom

/-- Whether a point lies in it or on its edge. -/
def contains (r : Rect) (p : Point) : Bool :=
  r.left ≤ p.x && p.x ≤ r.right && r.top ≤ p.y && p.y ≤ r.bottom

/-- It with margins on all sides. -/
def expand (r : Rect) (dx dy : Float32) : Rect :=
  ⟨r.left - dx, r.top - dy, r.right + dx, r.bottom + dy⟩

def intersect (r s : Rect) : Rect :=
  ⟨max r.left s.left, max r.top s.top, min r.right s.right, min r.bottom s.bottom⟩

def union (r s : Rect) : Rect :=
  ⟨min r.left s.left, min r.top s.top, max r.right s.right, max r.bottom s.bottom⟩

def meets (r s : Rect) : Bool :=
  r.left ≤ s.right && s.left ≤ r.right && r.top ≤ s.bottom && s.top ≤ r.bottom

/-- It with its corner elsewhere. -/
def movedTo (r : Rect) (corner : Point) : Rect := sized corner r.size

end Rect

/-- A share of an interval, from its begin to its end. -/
def mix (first last share : Float32) : Float32 := (1 - share) * first + share * last

/-- Where a value stands in an interval, as a share of it; outside, the nearer end. -/
def shareOf (first last value : Float32) : Float32 :=
  if first ≤ last then
    if value ≤ first then 0 else if last ≤ value then 1 else (value - first) / (last - first)
  else if value ≤ last then 1
  else if first ≤ value then 0
  else 1 - (value - last) / (first - last)

/-- The nearest place that is a whole number of pixels, with `scale` pixels for a point. -/
def toPixel (scale x : Float32) : Float32 := (x * scale).round / scale

end WindowHost.Gui
