import NeighborGraph.Scalar

/-!
From link weights to line widths.
-/

namespace NeighborGraph

/-- A linear scale through the origin. -/
structure StrokeScale (α : Type) where
  /-- What a value is multiplied by. -/
  factor : α
  deriving DecidableEq

namespace StrokeScale

variable {α : Type} [Scalar α]

/-- The scaled value. -/
def scale (s : StrokeScale α) (value : α) : α := s.factor * value

/-- The width of a line for a link of the given weight: the scaled square root. -/
def widthFor (s : StrokeScale α) (weight : α) : α :=
  s.scale (Scalar.sqrt (Scalar.greater weight 0))

end StrokeScale

end NeighborGraph
