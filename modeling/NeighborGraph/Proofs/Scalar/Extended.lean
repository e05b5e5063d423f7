import NeighborGraph.Proofs.Scalar.Canonical
import NeighborGraph.Proofs.Scalar.Exact

/-!
# Exact arithmetic with infinities

Doubles can be infinite or undefined, and the reals can not. Here the reals are extended by two
infinities and an undefined number, with the rules that doubles have for them and without any
rounding (`Extended`). A double stands for such a number (`Extended.ofDouble`), so a definition that
treats infinite and undefined numbers in branches of their own can be read exactly as a whole.
-/

namespace NeighborGraph

/-- The reals, two infinities and an undefined number. -/
inductive Extended where
  | real (x : ℝ)
  | infinity (negative : Bool)
  | undefined

namespace Extended

/-- Whether the number is below zero. -/
noncomputable def isNegative : Extended → Bool
  | .real x => decide (x < 0)
  | .infinity negative => negative
  | .undefined => false

/-- The infinity with the sign of a product or quotient. -/
noncomputable def infinityOf (a b : Extended) : Extended := .infinity (a.isNegative ^^ b.isNegative)

/-- Infinities of opposite signs have no sum. -/
protected noncomputable def add : Extended → Extended → Extended
  | .real x, .real y => .real (x + y)
  | .real _, .infinity negative => .infinity negative
  | .infinity negative, .real _ => .infinity negative
  | .infinity negative, .infinity negative' =>
    if negative = negative' then .infinity negative else .undefined
  | _, _ => .undefined

protected noncomputable def neg : Extended → Extended
  | .real x => .real (-x)
  | .infinity negative => .infinity !negative
  | .undefined => .undefined

/-- An infinity has no product with zero. -/
protected noncomputable def mul : Extended → Extended → Extended
  | .real x, .real y => .real (x * y)
  | .real x, .infinity negative =>
    if x = 0 then .undefined else infinityOf (.real x) (.infinity negative)
  | .infinity negative, .real x =>
    if x = 0 then .undefined else infinityOf (.infinity negative) (.real x)
  | .infinity negative, .infinity negative' => .infinity (negative ^^ negative')
  | _, _ => .undefined

/-- A quotient by zero is infinite, except for zero over zero. -/
protected noncomputable def div : Extended → Extended → Extended
  | .real x, .real y =>
    if y ≠ 0 then .real (x / y) else if x = 0 then .undefined else .infinity (decide (x < 0))
  | .real _, .infinity _ => .real 0
  | .infinity negative, .real x => infinityOf (.infinity negative) (.real x)
  | _, _ => .undefined

/-- An undefined number is not below any other one. -/
protected def Lt : Extended → Extended → Prop
  | .real x, .real y => x < y
  | .real _, .infinity negative => negative = false
  | .infinity negative, .real _ => negative = true
  | .infinity negative, .infinity negative' => negative = true ∧ negative' = false
  | _, _ => False

/-- An undefined number is not even at most itself. -/
protected def Le : Extended → Extended → Prop
  | .real x, .real y => x ≤ y
  | .real _, .infinity negative => negative = false
  | .infinity negative, .real _ => negative = true
  | .infinity negative, .infinity negative' => negative = true ∨ negative' = false
  | _, _ => False

/-- The number is neither infinite nor undefined. -/
def isReal : Extended → Bool
  | .real _ => true
  | _ => false

/-- A function of the reals, which is not defined at infinity. -/
noncomputable def lift (f : ℝ → ℝ) : Extended → Extended
  | .real x => .real (f x)
  | _ => .undefined

protected noncomputable def abs : Extended → Extended
  | .real x => .real |x|
  | .infinity _ => .infinity false
  | .undefined => .undefined

protected noncomputable def sqrt : Extended → Extended
  | .real x => if 0 ≤ x then .real √x else .undefined
  | .infinity false => .infinity false
  | _ => .undefined

/-- An infinite component makes the length infinite whatever the other one is. -/
protected noncomputable def hypot : Extended → Extended → Extended
  | .infinity _, _ => .infinity false
  | _, .infinity _ => .infinity false
  | .real x, .real y => .real √(x ^ 2 + y ^ 2)
  | _, _ => .undefined

open Classical in
noncomputable instance : Scalar Extended where
  add := Extended.add
  sub a b := a.add b.neg
  mul := Extended.mul
  div := Extended.div
  neg := Extended.neg
  lt := Extended.Lt
  le := Extended.Le
  natCast n := .real n
  ofScientific mantissa negative exponent :=
    .real (OfScientific.ofScientific mantissa negative exponent)
  decLt _ _ := inferInstance
  decLe _ _ := inferInstance
  isFinite := isReal
  abs := Extended.abs
  sqrt := Extended.sqrt
  hypot := Extended.hypot
  sin := lift Real.sin
  cos := lift Real.cos

/-- The number that a double stands for. -/
noncomputable def ofDouble (a : Float) : Extended :=
  match a.toModel.unpack with
  | .notANumber => .undefined
  | .infinity sign => .infinity (sign == .negative)
  | _ => .real (Double.value a)

end Extended

end NeighborGraph
