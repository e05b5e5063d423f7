import NeighborGraph.Frame.Style
import NeighborGraph.Graph.Basic

/-!
Frames: the shapes that show a graph, bottom to top.

A frame has a line for each link, then a box for each node, then a label for each node. The node
that a pointer hits is the one whose box is drawn last over the point.
-/

namespace NeighborGraph

/-- The shapes of one picture, in the order in which they are drawn. -/
abbrev Frame (α : Type) := List (Shape α)

variable {α : Type}

namespace Frame

/-- The lines among the shapes. -/
def lines (frame : Frame α) : List (Line α) :=
  frame.filterMap fun
    | .line l => some l
    | _ => none

/-- The node boxes among the shapes. -/
def boxes (frame : Frame α) : List (NodeBox α) :=
  frame.filterMap fun
    | .box b => some b
    | _ => none

/-- The labels among the shapes. -/
def labels (frame : Frame α) : List (Label α) :=
  frame.filterMap fun
    | .label l => some l
    | _ => none

variable [Scalar α]

/-- The smallest box around all shapes, if there are any. -/
@[specialize] def bounds? : Frame α → Option (Bounds α)
  | [] => none
  | shape :: rest =>
    some (rest.foldl (fun area (other : Shape α) => area.merge other.bounds) shape.bounds)

/-- All coordinates of the smallest box around the shapes are finite. -/
@[specialize] def isFinite (frame : Frame α) : Bool :=
  match frame.bounds? with
  | some area => area.isFinite
  | none => true

end Frame

namespace Style

variable [Scalar α]

/-- The box of a node at a position. -/
@[specialize] def boxAt (style : Style α) (position : Point α) : Bounds α :=
  style.anchor.place position style.nodeSize

/-- The line of a link, if both of its ends are in the graph. -/
def drawLink (style : Style α) (g : Graph α) (l : Link α) : Option (Line α) := do
  let source ← g.find? l.source
  let target ← g.find? l.target
  return ⟨source.position, target.position,
    .ofWidth style.linkColor (style.strokeScale.widthFor l.weight)⟩

/-- The box of a node. -/
def drawBox (style : Style α) (node : Node α) : NodeBox α :=
  ⟨node.id, style.boxAt node.position, style.nodeFill, none⟩

/-- The label of a node. -/
def drawLabel (style : Style α) (node : Node α) : Label α :=
  ⟨node.label, style.boxAt node.position, style.labelPlacement, style.labelColor, style.fontSize⟩

/-- The frame that shows a graph. -/
def draw (style : Style α) (g : Graph α) : Frame α :=
  (g.links.toList.filterMap (style.drawLink g)).map Shape.line ++
    (g.nodes.toList.map style.drawBox).map Shape.box ++
    (g.nodes.toList.map style.drawLabel).map Shape.label

/-- The node whose box is drawn last among those that contain a point. -/
def topmost? (style : Style α) (g : Graph α) (point : Point α) : Option NodeId :=
  (g.nodes.toList.reverse.find? fun node => (style.boxAt node.position).contains point).map (·.id)

end Style

end NeighborGraph
