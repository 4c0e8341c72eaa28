import WindowHost.Graphics

/-!
# Window configuration

A `Config` holds the settings a window is opened with. `Config.flaw?` finds what makes one unusable.
-/

namespace WindowHost

/-- A width and a height in physical pixels. -/
structure Extent where
  width : UInt32
  height : UInt32
  deriving DecidableEq, Repr, Inhabited

namespace Extent

/-- Whether an extent has a side of length zero. -/
def isEmpty (e : Extent) : Bool := e.width == 0 || e.height == 0

def area (e : Extent) : Nat := e.width.toNat * e.height.toNat

/-- The width and the height joined by a cross. -/
def text (e : Extent) : String := toString e.width.toNat ++ "x" ++ toString e.height.toNat

end Extent

/-- The settings of a window. Only the size changes while the window is open. -/
structure Config where
  name : String := "Window"
  size : Extent := ⟨800, 600⟩
  /-- Where the window should appear, from the left and from the top. -/
  position : Int32 × Int32 := (100, 100)
  /-- Whether presenting waits for the vertical blank. -/
  vsync : Bool := false
  /-- Whether the window has a visible surface. -/
  showWindow : Bool := true
  /-- The highest number of frames in a second. -/
  fpsLimit : UInt32 := 1000
  graphics : GraphicsApi := .auto
  deriving DecidableEq, Repr, Inhabited

namespace Config

/-- What makes a configuration unusable. -/
inductive Flaw where
  | emptySize (size : Extent)
  | zeroFpsLimit
  /-- A flaw that a user of the library has found. -/
  | other (reason : String)
  deriving DecidableEq, Repr

def Flaw.reason : Flaw → String
  | .emptySize size => "window size must be non-zero, got " ++ size.text
  | .zeroFpsLimit => "fps_limit must be greater than zero"
  | .other reason => reason

/-- The first flaw of a configuration, the size before the limit. -/
def flaw? (c : Config) : Option Flaw :=
  if c.size.isEmpty then some (.emptySize c.size)
  else if c.fpsLimit == 0 then some .zeroFpsLimit
  else none

end Config

end WindowHost
