import WindowHost.Number.Binary
import WindowHost.Number.Rounding

/-!
# Decimal places of floating-point numbers

`roundedTo` rounds a number to a number of decimal places and `fixedText` writes it with so many.
`placesFor` is how few places of a range keep it nearly the same.
-/

namespace WindowHost

/-- The rational value of a finite number. -/
def exactly (x : Float) : Rat := Binary.double.value x.toBits.toNat

/-- The number nearest to `x` with that many decimal places. -/
def roundedTo (places : Nat) (x : Float) : Float :=
  if x.isFinite then
    let units := (roundHalfEven (exactly x * tenTo places)).natAbs
    let size := Float.ofScientific units true places
    if x < 0 then -size else size
  else x

/-- A number with that many decimal places. -/
def fixedText (places : Nat) (x : Float) : String :=
  if x.isNaN then "NaN"
  else if x.isFinite then toFixed places (exactly x)
  else if x < 0 then "-inf" else "inf"

/-- Whether two numbers are the same but for the last digits. -/
def isNearly (x y : Float32) : Bool :=
  let size := max x.abs y.abs
  let tolerance : Float32 := Float32.ofBits 0x36000000
  x == y || size ≤ tolerance || (x - y).abs / size ≤ tolerance

/-- The number of places, from `few` to `many`, that are enough for a number. -/
def placesFor (x : Float) (few many : Nat) : Nat :=
  let many := min many 16
  let few := min few many
  let isEnough (places : Nat) : Bool := isNearly (roundedTo places x).toFloat32 x.toFloat32
  ((List.range (many - few)).map (few + ·)).find? isEnough |>.getD many

end WindowHost
