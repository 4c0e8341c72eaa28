/-!
# The simplest number in an interval

`simplest` picks the number with the fewest decimal digits in an interval of floating-point numbers.
Zero is the simplest number of all; then come powers of ten, and then numbers whose last digit is a
five or one from the middle of what is possible.
-/

namespace WindowHost

namespace Simplest

/-- A power with a whole exponent, by squaring. -/
def power (base : Float) (exponent : Nat) : Float :=
  if exponent = 0 then 1
  else
    let rest := power (base * base) (exponent / 2)
    if exponent % 2 = 1 then base * rest else rest
termination_by exponent

def powerOfTen (exponent : Int) : Float :=
  if exponent < 0 then 1 / power 10 exponent.natAbs else power 10 exponent.natAbs

/-- The number of digits that are looked at. -/
def digitCount : Nat := 15

/-- The digits of a number below ten, from the one before the point on. -/
def digits : Nat → Float → List Nat
  | 0, _ => []
  | n + 1, x => x.floor.toUInt64.toNat :: digits n ((x - x.floor) * 10)

/-- The number with those digits, the first of which counts `unit`. -/
def ofDigits : List Nat → Nat → Float → Float
  | [], _, sum => sum
  | d :: rest, place, sum =>
    ofDigits rest (place + 1) (sum + Float.ofNat d * powerOfTen (-(place : Int)))

/-- The simplest digit from `low` to `high`. -/
def digitBetween (low high : Nat) : Nat :=
  if low ≤ 5 && 5 ≤ high then 5 else (low + high) / 2

/-- The digits that two numbers share, and one more that lies between theirs. -/
def digitsBetween : List Nat → List Nat → List Nat
  | d :: low, e :: high =>
    if d = e then d :: digitsBetween low high else [digitBetween (d + 1) e]
  | _, _ => []

def isWhole (x : Float) : Bool := x.round == x

/-- The simplest number between two positive numbers. -/
def betweenPositive (low high : Float) : Float :=
  let least := low.log10
  let greatest := high.log10
  if least.floor != greatest.floor then
    powerOfTen ((least + greatest) / 2).round.toInt64.toInt
  else if isWhole least then Float.pow 10 least
  else if isWhole greatest then Float.pow 10 greatest
  else
    let unit := powerOfTen greatest.floor.toInt64.toInt
    ofDigits (digitsBetween (digits digitCount (low / unit)) (digits digitCount (high / unit))) 0 0
      * unit

end Simplest

/-- The simplest number between two numbers, which may be given in either order. -/
def simplest (x y : Float) : Float :=
  if x.isNaN then y
  else if y.isNaN then x
  else
    let (low, high) := if y < x then (y, x) else (x, y)
    if low == high then low
    else if low ≤ 0 && 0 ≤ high then 0
    else if high < 0 then
      if low.isFinite then -Simplest.betweenPositive (-high) (-low) else high
    else if high.isFinite then Simplest.betweenPositive low high
    else low

end WindowHost
