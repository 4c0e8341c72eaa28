import WindowHost.Devices
import WindowHost.Gui.Texture
import WindowHost.Native.Log
import WindowHost.Storage.Disk

/-!
# Drawing to a surface

A `Surface` holds a canvas of pixels and depth values, which is scaled onto a native window, and the
widgets' frames that wait to be painted over it. `Surface.present` shows the canvas; the frames that
were drawn since the last attempt are merged and painted with it.
-/

namespace WindowHost.Native

open Gui (Painted Textures)
open Image (Colour Picture)

/-- What is wrong with a size of a texture: one of its sides. -/
inductive SizeFault where
  | width (value : UInt32)
  | height (value : UInt32)
  deriving DecidableEq, Repr

def SizeFault.message : SizeFault → String
  | .width value => "Texture width is invalid: " ++ toString value.toNat
  | .height value => "Texture height is invalid: " ++ toString value.toNat

/-- Why a surface cannot be had, or not be shown. -/
inductive SurfaceFault where
  | noAdapter
  | texture (fault : SizeFault)
  /-- No texture of the surface could be acquired. -/
  | notAcquired
  deriving DecidableEq, Repr

def SurfaceFault.message : SurfaceFault → String
  | .noAdapter => "No suitable `wgpu::Adapter` found."
  | .texture fault => "Texture creation failed: " ++ fault.message
  | .notAcquired => "The GPU failed to acquire a surface frame."

/-- What is wrong with a size if sides have a limit, the width before the height. -/
def sizeFault? (limit : Nat) (size : Extent) : Option SizeFault :=
  let fits (side : UInt32) : Bool := side != 0 && side.toNat ≤ limit
  if !fits size.width then some (.width size.width)
  else if !fits size.height then some (.height size.height)
  else none

/-- A graphics processor. It says of the surface on a window and of the texture behind a canvas by
itself in which sizes it refuses them. -/
structure Gpu where
  /-- Whether there is one that can draw to windows. -/
  available : Bool := true
  /-- The longest side of a texture. -/
  textureLimit : Nat := 8192
  surfaceFault? : Extent → Option SizeFault := sizeFault? textureLimit
  textureFault? : Extent → Option SizeFault := sizeFault? textureLimit
  /-- The bytes of a canvas that is brought to a size, given those it had before. -/
  buffer : Array UInt8 → Extent → Array UInt8 := fun bytes size =>
    Array.ofFn fun i : Fin (4 * size.area) => bytes.getD i 0
  /-- Answers to the next requests for a texture of the surface; later ones are good. -/
  acquires : List Acquire := []

def clearColour : Colour := ⟨0, 0, 0, 255⟩

def clearDepth : Float32 := 1

/-- What is painted over a canvas: shapes with their textures, at a scale, on a screen of a size. -/
structure Painting (P N C : Type) where
  shapes : P
  screen : Extent
  scale : Float32
  textures : Textures N C

/-- A surface with shapes `P` and textures of names `N` and contents `C`. -/
structure Surface (P N C : Type) where
  gpu : Gpu
  size : Extent
  /-- The size that the surface on the window was configured in last. -/
  configured : Extent
  vsync : Bool
  clearColour : Colour
  /-- Four bytes a pixel, row by row from the top. -/
  canvas : Array UInt8
  depth : Array Float32
  /-- The frames of widgets that were drawn since the last attempt to present, merged into one. -/
  pending : Option (Painted P N C)
  textures : Textures N C
  /-- What was painted over the canvas when it was shown last. -/
  shown : Option (Painting P N C) := none

namespace Surface

variable {P N C : Type}

/-- Depth values without a drawing. Their number is a product of thirty-two bits. -/
def blankDepth (size : Extent) : Array Float32 :=
  Array.replicate (size.width * size.height).toNat clearDepth

/-- Gives all of the canvas the clear colour. -/
def fillCanvas (s : Surface P N C) : Surface P N C :=
  { s with canvas := Image.fillRgba s.canvas s.clearColour }

/-- Clears the canvas and the depth values for the next frame. -/
def prepare (s : Surface P N C) : Surface P N C :=
  { s.fillCanvas with depth := s.depth.map fun _ => clearDepth }

/-- The smallest size with an area that covers the given one. -/
def atLeastOne (size : Extent) : Extent := ⟨max size.width 1, max size.height 1⟩

/-- A surface that was just configured, whose canvas is not cleared yet. -/
def built (gpu : Gpu) (size : Extent) (vsync : Bool) : Surface P N C where
  gpu
  size
  configured := size
  vsync
  clearColour := Native.clearColour
  canvas := gpu.buffer #[] size
  depth := blankDepth size
  pending := none
  textures := Textures.none

/-- Opens a surface on a framebuffer of that size, and clears it for the first frame. -/
def openOn (gpu : Gpu) (framebuffer : Extent) (vsync : Bool) :
    Except BackendError (Entry × Surface P N C) :=
  let size := atLeastOne framebuffer
  if !gpu.available then .error (.surface SurfaceFault.noAdapter.message)
  else
    match (gpu.surfaceFault? size).or (gpu.textureFault? size) with
    | some fault => .error (.surface (SurfaceFault.texture fault).message)
    | none => .ok (.configured size vsync, (built gpu size vsync).prepare)

/-- The colour of the canvas at the next boundary of a frame. -/
def setClearColour (s : Surface P N C) (colour : Colour) : Surface P N C :=
  { s with clearColour := colour }

/-- Writes bytes of the canvas from a place on; none is written past its end. -/
def writeCanvas (s : Surface P N C) (start : Nat) (bytes : List UInt8) : Surface P N C :=
  { s with canvas := bytes.zipIdx.foldl (fun a (b, i) => a.setIfInBounds (start + i) b) s.canvas }

/-- Writes a depth value. -/
def writeDepth (s : Surface P N C) (i : Nat) (value : Float32) : Surface P N C :=
  { s with depth := s.depth.setIfInBounds i value }

/-- Adds a frame of widgets to those that wait. -/
def draw (frame : Painted P N C) (s : Surface P N C) : Surface P N C :=
  { s with pending := some (match s.pending with
    | some pending => pending.merge frame
    | none => frame) }

/-- Asks for the next texture of the surface. -/
def acquire (s : Surface P N C) : Acquire × Surface P N C :=
  (s.gpu.acquires.headD .good, { s with gpu := { s.gpu with acquires := s.gpu.acquires.tail } })

/-- What there is to paint for a frame of widgets. Its updates of textures come first. -/
def painting [DecidableEq N] (s : Surface P N C) (frame : Painted P N C) : Painting P N C where
  shapes := frame.primitives
  screen := s.size
  scale := frame.pixelsPerPoint
  textures := s.textures.duringPaint frame

/-- Shows the canvas, and the given frame of widgets over it. -/
def paint [DecidableEq N] (frame : Option (Painted P N C)) (s : Surface P N C) :
    List Entry × Surface P N C :=
  match frame with
  | some frame =>
    ([.scalingPass, .widgetPass, .presented],
      { s with shown := some (s.painting frame), textures := s.textures.afterPaint frame })
  | none => ([.scalingPass, .presented], { s with shown := none })

/-- Shows the canvas with the frames of widgets that wait. If no texture of the surface can be
acquired it is configured anew, and asked once more. The frames that waited are gone in any case. -/
def present [DecidableEq N] (s : Surface P N C) :
    (List Entry × Except BackendError Unit) × Surface P N C :=
  let frame := s.pending
  let (first, s) := acquire { s with pending := none }
  if first = .good then
    let (entries, s) := s.paint frame
    ((.acquired first :: entries, .ok ()), s)
  else
    let (second, s) := s.acquire
    let retry := [.acquired first, .configured s.configured s.vsync, .acquired second]
    if second = .good then
      let (entries, s) := s.paint frame
      ((retry ++ entries, .ok ()), s)
    else ((retry, .error (.surface SurfaceFault.notAcquired.message)), s)

/-- Takes another size. The surface on the window comes first and the texture behind the canvas
second, and either may be refused; only then the canvas is cleared in the new size. The same size
changes nothing. -/
def resize (size : Extent) (s : Surface P N C) :
    (List Entry × Except BackendError Unit) × Surface P N C :=
  if size = s.size then (([], .ok ()), s)
  else
    match s.gpu.surfaceFault? size with
    | some fault => (([], .error (.surface fault.message)), s)
    | none =>
      let s := { s with configured := size }
      let entries := [.configured size s.vsync]
      match s.gpu.textureFault? size with
      | some fault => ((entries, .error (.texture fault.message)), s)
      | none =>
        let s := { s with
          canvas := s.gpu.buffer s.canvas size
          size
          depth := blankDepth size }
        ((entries, .ok ()), s.fillCanvas)

def dump (s : Surface P N C) : Picture := { pixels := Image.packedPixels s.canvas, size := s.size }

/-- Writes the canvas to a file. -/
def writeImage (path : String) (s : Surface P N C) (disk : Storage.Disk) :
    Except BackendError Storage.Disk :=
  match disk.write path (Image.Pixmap.encode s.dump) with
  | .ok disk => .ok disk
  | .error cause => .error (.io cause)

/-- The depth values, for a target of their number. -/
def copyDepth (target : Array Float32) (s : Surface P N C) : Except BackendError (Array Float32) :=
  if target.size = s.depth.size then .ok s.depth
  else .error (.depthBufferSize s.depth.size target.size)

end Surface

end WindowHost.Native
