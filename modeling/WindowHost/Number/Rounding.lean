/-!
# Rounding to nearest, ties to even

`roundHalfEven` sends a rational number to the nearest integer and a tie to the even neighbour.
`toFixed` writes a rational number with a given number of decimal places under the same rule.
-/

namespace WindowHost

/-- The integer nearest to `x`; halfway between two integers, the even one. -/
def roundHalfEven (x : Rat) : Int :=
  let low := x.floor
  let rest := x - low
  if rest < 1 / 2 then low else if 1 / 2 < rest then low + 1 else low + low % 2

example : roundHalfEven (5 / 2) = 2 ∧ roundHalfEven (7 / 2) = 4 := by decide +kernel

/-- The power of ten with that exponent. -/
def tenTo : Nat → Nat
  | 0 => 1
  | n + 1 => 10 * tenTo n

/-- A number in at least that many digits, with leading zeros where needed. -/
def digitsPadded (width n : Nat) : String :=
  let digits := toString n
  String.ofList (List.replicate (width - digits.length) '0') ++ digits

/-- `x` with that many places after the point, rounded to nearest with ties to even. -/
def toFixed (places : Nat) (x : Rat) : String :=
  let unit := tenTo places
  let units := (roundHalfEven (x * unit)).natAbs
  let sign := if x < 0 then "-" else ""
  let fraction := if places = 0 then "" else "." ++ digitsPadded places (units % unit)
  sign ++ toString (units / unit) ++ fraction

/-- `x` with two places after the point. -/
def toFixedTwo (x : Rat) : String := toFixed 2 x

end WindowHost
