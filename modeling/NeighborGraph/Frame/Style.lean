import NeighborGraph.Draw.Shape
import NeighborGraph.Draw.StrokeScale

/-!
How the graph is drawn.
-/

namespace NeighborGraph

/-- Where in its box the position of a node is. -/
inductive NodeAnchor where
  /-- In the middle. -/
  | center
  /-- At the corner with the least coordinates. -/
  | corner
  deriving DecidableEq

variable {α : Type} [Scalar α]

/-- The box of the given size for a node at a position. -/
@[specialize] def NodeAnchor.place (anchor : NodeAnchor) (position : Point α) (size : Size α) :
    Bounds α :=
  match anchor with
  | center => .ofCenter position size
  | corner => .ofCorner position size

/-- The looks of nodes, links and labels. -/
structure Style (α : Type) where
  /-- The size of a node's box. -/
  nodeSize : Size α
  /-- Where in its box a node is. -/
  anchor : NodeAnchor
  /-- The color of the boxes. -/
  nodeFill : Color
  /-- The color of the links. -/
  linkColor : Color
  /-- How weights become line widths. -/
  strokeScale : StrokeScale α
  /-- How labels are shown. -/
  labelPlacement : LabelPlacement
  /-- The color of visible labels. -/
  labelColor : Color
  /-- The size of visible labels. -/
  fontSize : α

/-- Blue boxes of forty units around their nodes, gray links, and labels as tooltips. -/
def Style.default : Style α :=
  ⟨⟨40.0, 40.0⟩, .center, .blue, .linkGray, ⟨1.0⟩, .tooltip, .black, 12.0⟩

end NeighborGraph
