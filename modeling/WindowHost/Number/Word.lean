/-!
# Numbers known by their words

A floating-point number that is not a number still has a sign, which shows in the total order of
all words. `Single` and `Double` keep the words; `Double.key` numbers them in that order and
`Double.clamp` keeps a number between two bounds of it.
-/

namespace WindowHost

/-- A number of 32 bits. -/
structure Single where
  word : UInt32
  deriving DecidableEq, Repr, Inhabited

/-- A number of 64 bits. -/
structure Double where
  word : UInt64
  deriving DecidableEq, Repr, Inhabited

namespace Double

def ofFloat (x : Float) : Double := ⟨x.toBits⟩

def toFloat (x : Double) : Float := Float.ofBits x.word

/-- The place of a word in the total order, in which `-0` comes before `0` and what is not a number
comes first or last by its sign. -/
def key (x : Double) : Int :=
  let bits := x.word.toNat
  if bits < 0x8000000000000000 then bits else 0x7fffffffffffffff - (bits : Int)

/-- Keeps a number between two bounds, which may be given in either order. -/
def clamp (x bound bound' : Double) : Double :=
  let (low, high) := if bound'.key < bound.key then (bound', bound) else (bound, bound')
  if x.key ≤ low.key then low else if high.key ≤ x.key then high else x

end Double

namespace Single

def ofFloat32 (x : Float32) : Single := ⟨x.toBits⟩

def toFloat32 (x : Single) : Float32 := Float32.ofBits x.word

def isNaN (x : Single) : Bool := 0x7f800000 < x.word &&& 0x7fffffff

/-- The same number in 64 bits. -/
def widen (x : Single) : Double :=
  if x.isNaN then
    let sign := (x.word >>> 31).toUInt64 <<< 63
    let payload := (x.word &&& 0x7fffff).toUInt64 <<< 29
    ⟨sign ||| 0x7ff8000000000000 ||| payload⟩
  else .ofFloat x.toFloat32.toFloat

end Single

end WindowHost
