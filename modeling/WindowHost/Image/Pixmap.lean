import WindowHost.Config
import WindowHost.Image.Pixel

/-!
# Portable pixmaps

`Pixmap.encode` writes a picture in the binary portable pixmap format: a header with the size and
the largest value of a channel, and then three bytes a pixel, row by row from the top.
-/

namespace WindowHost.Image

/-- The contents of a framebuffer, row by row from the top, as packed pixels. -/
structure Picture where
  pixels : Array UInt32
  size : Extent
  deriving DecidableEq, Repr, Inhabited

namespace Pixmap

/-- The lines before the pixels. -/
def header (size : Extent) : String :=
  "P6\n" ++ toString size.width.toNat ++ " " ++ toString size.height.toNat ++ "\n255\n"

/-- The whole file. The size is written as it stands, whatever the number of pixels. -/
def encode (p : Picture) : Array UInt8 :=
  (header p.size).toUTF8.data ++ rgbBytes p.pixels

end Pixmap

end WindowHost.Image
