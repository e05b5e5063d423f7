import NeighborGraph.Draw.Stroke
import NeighborGraph.Ident

/-!
The shapes of a drawing: lines for links, boxes for nodes, and labels.
-/

namespace NeighborGraph

/-- A straight line. -/
structure Line (α : Type) where
  /-- Where the line begins. -/
  start : Point α
  /-- Where the line ends. -/
  stop : Point α
  /-- What the line is painted with. -/
  stroke : Stroke α

/-- The box drawn for a node. It knows its node, so that a pointer on the box finds it. -/
structure NodeBox (α : Type) where
  /-- The node that the box stands for. -/
  node : NodeId
  /-- The area of the box. -/
  area : Bounds α
  /-- The color of the area. -/
  fill : Color
  /-- What the edge is painted with, if it is painted. -/
  outline : Option (Stroke α)

/-- How a label is shown. -/
inductive LabelPlacement where
  /-- Only while the pointer rests on the area. -/
  | tooltip
  /-- As text in the middle of the area. -/
  | text
  deriving DecidableEq

/-- The caption of a node. -/
structure Label (α : Type) where
  /-- What the label says. -/
  text : String
  /-- The area that it belongs to. -/
  area : Bounds α
  /-- How it is shown. -/
  placement : LabelPlacement
  /-- The color of visible text. -/
  color : Color
  /-- The size of visible text. -/
  fontSize : α

/-- One shape of a drawing. -/
inductive Shape (α : Type) where
  | line (line : Line α)
  | box (box : NodeBox α)
  | label (label : Label α)

variable {α : Type} [Scalar α]

namespace Line

/-- The length of the line. -/
def length (l : Line α) : α := l.start.distance l.stop

/-- The smallest box around the line. -/
@[specialize] def bounds (l : Line α) : Bounds α :=
  .ofCorner ⟨Scalar.lesser l.start.x l.stop.x, Scalar.lesser l.start.y l.stop.y⟩
    ⟨Scalar.abs (l.start.x - l.stop.x), Scalar.abs (l.start.y - l.stop.y)⟩

end Line

/-- A tooltip on an area; made visible, its text is black and of size twelve. -/
def Label.tooltip (text : String) (area : Bounds α) : Label α := ⟨text, area, .tooltip, .black, 12⟩

/-- The area that a shape covers. -/
@[specialize] def Shape.bounds : Shape α → Bounds α
  | .line l => l.bounds
  | .box b => b.area
  | .label l => l.area

end NeighborGraph
