/-!
# The value of a binary floating-point word

A word of a binary interchange format holds a sign bit, a biased exponent and a fraction.
`Binary.value` reads it as the rational number it stands for.
-/

namespace WindowHost

/-- The widths of a binary interchange format. -/
structure Binary where
  /-- Number of fraction bits. -/
  fractionBits : Nat
  /-- Number of exponent bits. -/
  exponentBits : Nat

namespace Binary

def double : Binary := ⟨52, 11⟩

def single : Binary := ⟨23, 8⟩

variable (f : Binary)

def fraction (word : Nat) : Nat := word % (1 <<< f.fractionBits)

def biasedExponent (word : Nat) : Nat := (word >>> f.fractionBits) % (1 <<< f.exponentBits)

/-- Whether the sign bit of a word is set. -/
def isNegative (word : Nat) : Bool :=
  (word >>> (f.fractionBits + f.exponentBits)) % 2 == 1

/-- The significand as a natural number: a normal word has a leading one that is not stored. -/
def significand (word : Nat) : Nat :=
  if f.biasedExponent word = 0 then f.fraction word
  else f.fraction word + (1 <<< f.fractionBits)

/-- How many binary places the significand is shifted up, before the shift down by `scale`. -/
def shift (word : Nat) : Nat := f.biasedExponent word - 1

/-- The number of binary places between the unit and the smallest positive word. -/
def scale : Nat := (1 <<< (f.exponentBits - 1)) - 2 + f.fractionBits

/-- The rational value of a finite word; infinities and NaN have none and read as zero. -/
def value (word : Nat) : Rat :=
  if f.biasedExponent word = (1 <<< f.exponentBits) - 1 then 0
  else
    let magnitude := mkRat (f.significand word <<< f.shift word : Nat) (1 <<< f.scale)
    if f.isNegative word then -magnitude else magnitude

end Binary

end WindowHost
