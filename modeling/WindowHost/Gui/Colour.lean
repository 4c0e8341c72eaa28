/-!
# Colours by hue

A colour is edited by its hue, its saturation and its brightness. `Light` is a colour as amounts of
light, and `Tone` the same colour by hue; `Light.tone` and `Tone.light` go from one to the other in
32-bit arithmetic. A negative cover marks light that is added to what lies below.
-/

namespace WindowHost.Gui

/-- A colour as amounts of light, multiplied by how much it covers. -/
structure Light where
  red : Float32
  green : Float32
  blue : Float32
  cover : Float32
  deriving BEq, Repr, Inhabited

/-- A colour by hue, saturation and brightness, each from zero to one. -/
structure Tone where
  hue : Float32
  saturation : Float32
  value : Float32
  cover : Float32
  deriving BEq, Repr, Inhabited

/-- The smaller of two numbers, or the one that is a number. -/
def lesser (x y : Float32) : Float32 := if x.isNaN then y else if y.isNaN then x else min x y

/-- The larger of two numbers, or the one that is a number. -/
def greater (x y : Float32) : Float32 := if x.isNaN then y else if y.isNaN then x else max x y

/-- What a number is beyond its whole part, with the number's sign. -/
def fraction (x : Float32) : Float32 := x - (if x < 0 then x.ceil else x.floor)

/-- Keeps a number from zero to one. -/
def toUnit (x : Float32) : Float32 := if x < 0 then 0 else if 1 < x then 1 else x

/-- Hue, saturation and brightness of amounts of light. -/
def toneOf (red green blue cover : Float32) : Tone :=
  let least := lesser red (lesser green blue)
  let most := greater red (greater green blue)
  let range := most - least
  let turn : Float32 :=
    if most == least then 0
    else if most == red then (green - blue) / (6 * range)
    else if most == green then (blue - red) / (6 * range) + 1 / 3
    else (red - green) / (6 * range) + 2 / 3
  { hue := fraction (turn + 1)
    saturation := if most == 0 then 0 else 1 - least / most
    value := most
    cover }

/-- The colour by hue. Light that covers nothing is added light. -/
def Light.tone (c : Light) : Tone :=
  if c.cover == 0 then
    if c.red == 0 && c.blue == 0 then ⟨0, 0, 0, 0⟩ else toneOf c.red c.green c.blue (-0.5)
  else toneOf (c.red / c.cover) (c.green / c.cover) (c.blue / c.cover) c.cover

namespace Tone

def amounts (t : Tone) : Float32 × Float32 × Float32 :=
  let sixth := fraction (fraction t.hue + 1) * 6
  let s := toUnit t.saturation
  let v := t.value
  let f := sixth - sixth.floor
  let p := v * (1 - s)
  let q := v * (1 - f * s)
  let r := v * (1 - (1 - f) * s)
  match sixth.floor.toInt32.toInt % 6 with
  | 0 => (v, r, p)
  | 1 => (q, v, p)
  | 2 => (p, v, r)
  | 3 => (p, q, v)
  | 4 => (r, p, v)
  | _ => (v, p, q)

def light (t : Tone) : Light :=
  let (red, green, blue) := t.amounts
  if t.cover < 0 then ⟨red, green, blue, 0⟩
  else ⟨t.cover * red, t.cover * green, t.cover * blue, t.cover⟩

end Tone

/-- A brightness as the eye has it. -/
def toGamma (x : Float32) : Float32 :=
  let curve (x : Float32) : Float32 :=
    if x ≤ 0.0031308 then 12.92 * x else 1.055 * Float32.pow x (1 / 2.4) - 0.055
  if x < 0 then -curve (-x) else curve x

/-- An amount of light from a brightness as the eye has it. -/
def ofGamma (x : Float32) : Float32 :=
  let curve (x : Float32) : Float32 :=
    if x ≤ 0.04045 then x / 12.92 else Float32.pow ((x + 0.055) / 1.055) 2.4
  if x < 0 then -curve (-x) else curve x

def toByte (x : Float32) : UInt8 := (x + 0.5).floor.toUInt8

def gammaByte (x : Float32) : UInt8 :=
  if x ≤ 0 then 0
  else if x ≤ 0.0031308 then toByte (3294.6 * x)
  else if x ≤ 1 then toByte (269.025 * Float32.pow x (1 / 2.4) - 14.025)
  else 255

def ofGammaByte (b : UInt8) : Float32 :=
  let x := Float32.ofNat b.toNat
  if b ≤ 10 then x / 3294.6 else Float32.pow ((x + 14.025) / 269.025) 2.4

/-- The bytes of a colour: red, green, blue, and how much it covers. -/
def Tone.bytes (t : Tone) : List UInt8 :=
  let (red, green, blue) := t.amounts
  [gammaByte red, gammaByte green, gammaByte blue, toByte (t.cover.abs * 255)]

def Tone.ofBytes (bytes : List UInt8) : Tone :=
  let amount (i : Nat) : Float32 := ofGammaByte (bytes.getD i 0)
  toneOf (amount 0) (amount 1) (amount 2) (Float32.ofNat (bytes.getD 3 0).toNat / 255)

end WindowHost.Gui
