/-!
# Cursor shapes

The ten shapes a host program can ask for. `Shape.ofIndex?` and `Shape.index` are the numbering of
`Shape.all`.
-/

namespace WindowHost.Cursor

/-- A shape of the cursor. -/
inductive Shape where
  | arrow | iBeam | crosshair | hand | resizeEW | resizeNS | resizeNWSE | resizeNESW | resizeAll
  | notAllowed
  deriving DecidableEq, Repr, Inhabited

namespace Shape

def all : List Shape :=
  [.arrow, .iBeam, .crosshair, .hand, .resizeEW, .resizeNS, .resizeNWSE, .resizeNESW, .resizeAll,
    .notAllowed]

def ofIndex? (index : Int32) : Option Shape :=
  if index < 0 then none else all[index.toNatClampNeg]?

def index (s : Shape) : Int32 := Int32.ofNat (all.idxOf s)

def name : Shape → String
  | .arrow => "Arrow"
  | .iBeam => "IBeam"
  | .crosshair => "Crosshair"
  | .hand => "Hand"
  | .resizeEW => "ResizeEW"
  | .resizeNS => "ResizeNS"
  | .resizeNWSE => "ResizeNWSE"
  | .resizeNESW => "ResizeNESW"
  | .resizeAll => "ResizeAll"
  | .notAllowed => "NotAllowed"

theorem ofIndex?_index (s : Shape) : ofIndex? s.index = some s := by cases s <;> rfl

end Shape

end WindowHost.Cursor
