/-!
The arithmetic that the layout and the drawing run on.

`Scalar` names the operations that the force laws, the integration step and the boxes of a drawing
use. The program runs them on doubles, whose sums round and overflow; the same definitions read
over an exact field say what the dynamics does before rounding. Nothing here assumes a law of
arithmetic.
-/

namespace NeighborGraph

/-- The operations that positions, forces and box sizes are computed with. -/
class Scalar (α : Type) extends Add α, Sub α, Mul α, Div α, Neg α, LT α, LE α, NatCast α,
    OfScientific α where
  /-- Whether one number is below another can be decided. -/
  decLt : DecidableLT α
  /-- Whether one number is at most another can be decided. -/
  decLe : DecidableLE α
  /-- Holds of the numbers that are neither infinite nor undefined. -/
  isFinite : α → Bool
  /-- The distance from zero. -/
  abs : α → α
  /-- The square root of a number that is not negative. -/
  sqrt : α → α
  /-- The length of the vector with the given components. -/
  hypot : α → α → α
  /-- The sine of an angle in radians. -/
  sin : α → α
  /-- The cosine of an angle in radians. -/
  cos : α → α

namespace Scalar

variable {α : Type} [Scalar α]

instance (a b : α) : Decidable (a < b) := decLt a b

instance (a b : α) : Decidable (a ≤ b) := decLe a b

/-- A natural number literal stands for the number itself. -/
instance (priority := low) (n : Nat) : OfNat α n := ⟨(n : α)⟩

/-- The greater of two numbers; an undefined operand yields to the other one, and of two equal
numbers the second is taken. -/
@[specialize] def greater (a b : α) : α := if b < a ∨ ¬ b ≤ b then a else b

/-- The smaller of two numbers; an undefined operand yields to the other one, and of two equal
numbers the second is taken. -/
@[specialize] def lesser (a b : α) : α := if a < b ∨ ¬ b ≤ b then a else b

/-- Finite and not below zero: what weights, forces and lengths have to be. -/
@[specialize] def isMagnitude (a : α) : Bool := isFinite a && decide (0 ≤ a)

/-- Finite and above zero: what steps, thresholds and box sides have to be. -/
@[specialize] def isPositive (a : α) : Bool := isFinite a && decide (0 < a)

/-- The number itself if it is a magnitude, and zero if it is negative, infinite or undefined. -/
@[specialize] def toMagnitude (a : α) : α := if isFinite a then greater a 0 else 0

end Scalar

namespace Double

/-- Two to the power 600: far enough from one that squares of extreme components, brought closer
by it, neither overflow nor vanish. -/
def farScale : Float := Float.ofBits 0x6570000000000000

/-- Two to the power -600. -/
def nearScale : Float := Float.ofBits 0x1A70000000000000

/-- The greatest component whose square is taken as it is: two to the power 500. -/
def greatestPlain : Float := Float.ofBits 0x5F30000000000000

/-- The least component whose square is taken as it is: two to the power -400. -/
def leastPlain : Float := Float.ofBits 0x26F0000000000000

/-- Positive infinity. -/
def infinity : Float := Float.ofBits 0x7FF0000000000000

/-- The length of the vector with components `x` and `y`: components whose squares would leave the
range of a double are scaled by a power of two first. An infinite component makes the length
infinite whatever the other one is. -/
def hypot (x y : Float) : Float :=
  if x.isInf || y.isInf then infinity
  else
    let long := if x.abs < y.abs then y.abs else x.abs
    if greatestPlain < long then
      farScale * Float.sqrt (nearScale * x * (nearScale * x) + nearScale * y * (nearScale * y))
    else if long < leastPlain then
      nearScale * Float.sqrt (farScale * x * (farScale * x) + farScale * y * (farScale * y))
    else Float.sqrt (x * x + y * y)

end Double

/-- Doubles: the arithmetic of the running program. -/
instance : Scalar Float where
  decLt := inferInstance
  decLe := inferInstance
  natCast := Float.ofNat
  isFinite := Float.isFinite
  abs := Float.abs
  sqrt := Float.sqrt
  hypot := Double.hypot
  sin := Float.sin
  cos := Float.cos

end NeighborGraph
