import NeighborGraph.Color.Text
import NeighborGraph.Geometry.Bounds

/-!
Strokes of lines and outlines.
-/

namespace NeighborGraph

/-- The color and width that a line or an outline is painted with. -/
structure Stroke (α : Type) where
  /-- The color. -/
  color : Color
  /-- The width. -/
  width : α

namespace Stroke

variable {α : Type} [Scalar α]

/-- A stroke of the given width; one that is negative, infinite or undefined counts as zero. -/
@[specialize] def ofWidth (color : Color) (width : α) : Stroke α :=
  ⟨color, Scalar.toMagnitude width⟩

/-- A black stroke of width one. -/
@[specialize] def plain : Stroke α := ofWidth .black 1

/-- The stroke paints something. -/
def isVisible (s : Stroke α) : Bool := decide (0 < s.width) && decide (0 < s.color.alpha)

end Stroke

end NeighborGraph
