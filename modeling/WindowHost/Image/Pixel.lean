/-!
# Pixels

A `Colour` has four channels of a byte each. It is laid out in a frame as four bytes, and packed
into a `Word` with the red channel lowest. `packRgba` and `packedToRgb` convert whole buffers and
`fillRgba` paints one.
-/

namespace WindowHost.Image

/-- A colour with its opacity. -/
structure Colour where
  red : UInt8
  green : UInt8
  blue : UInt8
  alpha : UInt8
  deriving DecidableEq, Repr, Inhabited

namespace Colour

/-- The channel at place `i` of the four bytes of a pixel, taken round. -/
def channel (c : Colour) (i : Nat) : UInt8 :=
  match i % 4 with
  | 0 => c.red
  | 1 => c.green
  | 2 => c.blue
  | _ => c.alpha

/-- The packed word of a colour. -/
def pack (c : Colour) : UInt32 :=
  UInt32.ofNat
    (c.red.toNat + 0x100 * c.green.toNat + 0x10000 * c.blue.toNat + 0x1000000 * c.alpha.toNat)

def unpack (w : UInt32) : Colour where
  red := UInt8.ofNat w.toNat
  green := UInt8.ofNat (w.toNat / 0x100)
  blue := UInt8.ofNat (w.toNat / 0x10000)
  alpha := UInt8.ofNat (w.toNat / 0x1000000)

end Colour

/-- A buffer whose length does not fit its use. -/
inductive SizeError where
  | notWholePixels (length : Nat)
  | wrongLength (actual expected : Nat)
  deriving DecidableEq, Repr

def SizeError.message : SizeError → String
  | .notWholePixels length =>
    "src length " ++ toString length ++ " is not a multiple of 4"
  | .wrongLength actual expected =>
    "dst length " ++ toString actual ++ " does not match expected " ++ toString expected

/-- The colour of pixel `i` of a buffer of four bytes each. -/
def colourAt (bytes : Array UInt8) (i : Nat) : Colour :=
  ⟨bytes.getD (4 * i) 0, bytes.getD (4 * i + 1) 0, bytes.getD (4 * i + 2) 0,
    bytes.getD (4 * i + 3) 0⟩

/-- The packed words of all whole pixels. -/
def packedPixels (bytes : Array UInt8) : Array UInt32 :=
  Array.ofFn fun i : Fin (bytes.size / 4) => (colourAt bytes i).pack

/-- Packs a buffer of four bytes a pixel; its length must be a multiple of four. -/
def packRgba (bytes : Array UInt8) : Except SizeError (Array UInt32) :=
  if bytes.size % 4 = 0 then .ok (packedPixels bytes) else .error (.notWholePixels bytes.size)

/-- Red, green and blue of each packed pixel in turn. -/
def rgbBytes (pixels : Array UInt32) : Array UInt8 :=
  Array.ofFn fun i : Fin (3 * pixels.size) =>
    (Colour.unpack (pixels.getD (i / 3) 0)).channel (i % 3)

/-- Unpacks into a buffer of the given length, which must hold three bytes a pixel. -/
def packedToRgb (pixels : Array UInt32) (length : Nat) : Except SizeError (Array UInt8) :=
  if length = pixels.size * 3 then .ok (rgbBytes pixels)
  else .error (.wrongLength length (pixels.size * 3))

/-- Gives every whole pixel of a frame that colour. -/
def fillRgba (frame : Array UInt8) (colour : Colour) : Array UInt8 :=
  let whole := frame.size / 4 * 4
  frame.mapIdx fun i b => if i < whole then colour.channel i else b

@[simp] theorem size_packedPixels (bytes : Array UInt8) :
    (packedPixels bytes).size = bytes.size / 4 := by
  simp [packedPixels]

@[simp] theorem size_rgbBytes (pixels : Array UInt32) :
    (rgbBytes pixels).size = 3 * pixels.size := by
  simp [rgbBytes]

@[simp] theorem size_fillRgba (frame : Array UInt8) (colour : Colour) :
    (fillRgba frame colour).size = frame.size := by
  simp [fillRgba]

end WindowHost.Image
