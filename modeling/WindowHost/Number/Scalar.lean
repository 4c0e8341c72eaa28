import WindowHost.Number.Binary

/-!
# Scalars

The numbers a window host calculates with. Its formulas are written once over `Scalar` and run on
`Float`; over `Rat` the same formulas are exact. `Narrowing` is the step from the numbers of a
display to the shorter numbers of a cursor position.
-/

namespace WindowHost

/-- Arithmetic with an order test and an exact value. -/
class Scalar (α : Type) extends Add α, Sub α, Mul α, Div α where
  /-- A count as a number. -/
  ofNat : Nat → α
  /-- Whether the first number is at most the second; never true of a number that has no order. -/
  le : α → α → Bool
  /-- The rational value of a finite number. -/
  exact : α → Rat

/-- Shortening a number to a coarser format. -/
class Narrowing (α : Type) (β : outParam Type) where
  /-- The nearest number of the coarser format. -/
  narrow : α → β

instance : Scalar Float where
  ofNat := Float.ofNat
  le x y := decide (x ≤ y)
  exact x := Binary.double.value x.toBits.toNat

instance : Scalar Float32 where
  ofNat := Float32.ofNat
  le x y := decide (x ≤ y)
  exact x := Binary.single.value x.toBits.toNat

instance : Scalar Rat where
  ofNat n := (n : Rat)
  le x y := decide (x ≤ y)
  exact x := x

instance : Narrowing Float Float32 := ⟨Float.toFloat32⟩

instance : Narrowing Rat Rat := ⟨id⟩

end WindowHost
