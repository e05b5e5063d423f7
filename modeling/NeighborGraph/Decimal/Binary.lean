/-!
Binary floating-point numbers taken apart.

`BinaryFormat.decode` reads the bits of a number in a binary interchange format: what is finite
becomes a sign and an exact value `significand * 2 ^ exponent`. All number text of this library is
computed from these exact values in natural-number arithmetic.
-/

namespace NeighborGraph

/-- A binary interchange format: how many bits hold the fraction and how many the exponent. -/
structure BinaryFormat where
  /-- The number of stored bits of the significand. -/
  fractionBits : Nat
  /-- The number of bits of the biased exponent. -/
  exponentBits : Nat
  deriving DecidableEq

namespace BinaryFormat

/-- The format of doubles. -/
def double : BinaryFormat := ⟨52, 11⟩

/-- The format of singles. -/
def single : BinaryFormat := ⟨23, 8⟩

end BinaryFormat

/-- The magnitude of a finite number: `significand * 2 ^ exponent`. -/
structure BinaryMagnitude where
  /-- The integer significand. -/
  significand : Nat
  /-- The power of two that it is multiplied by. -/
  exponent : Int
  /-- The next smaller number of the format is only half as far away as the next greater one. -/
  narrowBelow : Bool
  deriving DecidableEq

/-- What the bits of a floating-point number stand for. -/
inductive BinaryNumber where
  /-- The result of an undefined operation. -/
  | nan
  /-- An infinity of the given sign. -/
  | infinite (negative : Bool)
  /-- A number of the given sign and magnitude; zero comes with both signs. -/
  | finite (negative : Bool) (magnitude : BinaryMagnitude)
  deriving DecidableEq

namespace BinaryFormat

/-- The number of values of the fraction field. -/
def fractionSize (f : BinaryFormat) : Nat := Nat.pow 2 f.fractionBits

/-- The number of values of the exponent field. -/
def exponentSize (f : BinaryFormat) : Nat := Nat.pow 2 f.exponentBits

/-- What the given bits stand for. -/
def decode (f : BinaryFormat) (bits : Nat) : BinaryNumber :=
  let fraction := bits % f.fractionSize
  let biased := bits / f.fractionSize % f.exponentSize
  let negative := bits / (f.fractionSize * f.exponentSize) % 2 == 1
  let bias : Int := f.exponentSize / 2 - 1 + f.fractionBits
  if biased + 1 = f.exponentSize then
    if fraction = 0 then .infinite negative else .nan
  else if biased = 0 then .finite negative ⟨fraction, 1 - bias, false⟩
  else
    .finite negative ⟨f.fractionSize + fraction, biased - bias, fraction == 0 && 1 < biased⟩

end BinaryFormat

namespace BinaryMagnitude

/-- The value times `4`, as a quotient of natural numbers: numerator and denominator. The factor
leaves room for the quarter steps at which rounding changes. -/
def quarters (m : BinaryMagnitude) : Nat × Nat :=
  (4 * m.significand * Nat.pow 2 m.exponent.toNat, Nat.pow 2 (-m.exponent).toNat)

/-- The value as a quotient of natural numbers: numerator and denominator. -/
def quotient (m : BinaryMagnitude) : Nat × Nat :=
  (m.significand * Nat.pow 2 m.exponent.toNat, Nat.pow 2 (-m.exponent).toNat)

end BinaryMagnitude

/-- What a double stands for. -/
def BinaryNumber.ofDouble (a : Float) : BinaryNumber := BinaryFormat.double.decode a.toBits.toNat

/-- What a single stands for. -/
def BinaryNumber.ofSingle (a : Float32) : BinaryNumber := BinaryFormat.single.decode a.toBits.toNat

end NeighborGraph
