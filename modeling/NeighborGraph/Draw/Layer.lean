import NeighborGraph.Draw.Shape
import NeighborGraph.Markup.Element

/-!
Layers of a drawing.

Each shape becomes a piece of markup on one of four layers. To be written, the pieces are sorted by
their layers, those of one layer in the order in which they were added, and then grouped in one
pass that begins a new group wherever the layer changes.
-/

namespace NeighborGraph

/-- The layers of a drawing, bottom to top. -/
inductive Layer where
  | background
  | link
  | node
  | label
  deriving DecidableEq

namespace Layer

/-- The name of a layer in the drawing. -/
def name : Layer → String
  | background => "background"
  | link => "link"
  | node => "node"
  | label => "label"

/-- The number of layers below. -/
def rank : Layer → Nat
  | background => 0
  | link => 1
  | node => 2
  | label => 3

/-- The group of a layer with the given content. -/
def group (layer : Layer) (content : List Markup) : Markup :=
  .element "g" [("data-layer", layer.name)] content

end Layer

/-- Pieces of markup with the layers that they belong to. -/
abbrev Layered := List (Layer × Markup)

namespace Layered

/-- One more piece, on the given layer. -/
def add (pieces : Layered) (layer : Layer) (piece : Markup) : Layered := pieces ++ [(layer, piece)]

/-- The pieces of two outputs, those of the first one first. -/
def merge (pieces others : Layered) : Layered := pieces ++ others

/-- The layer of the first piece is not above that of the second one. -/
def inOrder (a b : Layer × Markup) : Bool := a.1.rank ≤ b.1.rank

/-- The pieces from the bottom layer to the top one; those of one layer keep their order. -/
def sorted (pieces : Layered) : Layered := pieces.mergeSort inOrder

/-- The groups of pieces in the order given, when the group of a layer has been begun: this group
takes the next piece if it is on the same layer, and is closed otherwise. -/
def groupsFrom (layer : Layer) (begun : Array Markup) : Layered → List Markup
  | [] => [layer.group begun.toList]
  | (next, piece) :: rest =>
    if next = layer then groupsFrom layer (begun.push piece) rest
    else layer.group begun.toList :: groupsFrom next #[piece] rest

/-- The groups of the pieces, from the bottom layer to the top one. -/
def groups (pieces : Layered) : List Markup :=
  match pieces.sorted with
  | [] => []
  | (layer, piece) :: rest => groupsFrom layer #[piece] rest

end Layered

namespace Stroke

/-- The attributes of a stroke. -/
def attributes (s : Stroke Float) : List Attribute :=
  [("stroke", s.color.text), ("stroke-opacity", Single.plainText s.color.alpha),
    ("stroke-width", Double.plainText s.width)]

end Stroke

/-- A line as markup. -/
def Line.markup (l : Line Float) : Markup :=
  .element "line" (("class", "link") :: l.stroke.attributes ++
    [("x1", Double.plainText l.start.x), ("x2", Double.plainText l.stop.x),
      ("y1", Double.plainText l.start.y), ("y2", Double.plainText l.stop.y)]) []

/-- A node box as markup, with the text of its node's identifier. -/
def NodeBox.markup (b : NodeBox Float) : Markup :=
  .element "rect" ([("class", "node"), ("data-node", b.node.text), ("fill", b.fill.text),
      ("fill-opacity", Single.plainText b.fill.alpha),
      ("height", Double.plainText b.area.height)] ++
    (b.outline.map Stroke.attributes).getD [] ++
    [("width", Double.plainText b.area.width), ("x", Double.plainText b.area.minX),
      ("y", Double.plainText b.area.minY)]) []

/-- A label as markup: a transparent box with a title, or text in the middle of its area. -/
def Label.markup (l : Label Float) : Markup :=
  match l.placement with
  | .tooltip =>
    .element "rect" [("class", "label"), ("fill", "transparent"),
        ("height", Double.plainText l.area.height), ("width", Double.plainText l.area.width),
        ("x", Double.plainText l.area.minX), ("y", Double.plainText l.area.minY)]
      [.element "title" [] [.inlineText l.text]]
  | .text =>
    .element "text" [("class", "label"), ("dominant-baseline", "central"), ("fill", l.color.text),
        ("font-size", Double.plainText l.fontSize), ("text-anchor", "middle"),
        ("x", Double.plainText l.area.center.x), ("y", Double.plainText l.area.center.y)]
      [.textLine l.text]

/-- The piece of markup that a shape adds to the drawing. -/
def Shape.layered : Shape Float → Layered
  | .line l => [(.link, l.markup)]
  | .box b => [(.node, b.markup)]
  | .label l => [(.label, l.markup)]

end NeighborGraph
