import NeighborGraph.Ident

/-!
Graph documents: what a graph file says, before it is checked.
-/

namespace NeighborGraph

/-- A node of a document. -/
structure DocumentNode where
  /-- The caption of the node. -/
  name : String
  /-- The identifier, if it is not the name. -/
  id : Option String
  deriving DecidableEq

/-- A link of a document, between nodes given by their positions. -/
structure DocumentLink where
  /-- The position of the node where the link begins. -/
  source : Nat
  /-- The position of the node where the link ends. -/
  target : Nat
  /-- The weight of the link. -/
  value : Float
  deriving DecidableEq

/-- A graph document. -/
structure Document where
  /-- The nodes. -/
  nodes : List DocumentNode
  /-- The links. -/
  links : List DocumentLink
  deriving DecidableEq

/-- A node with a name and no identifier of its own. -/
def DocumentNode.named (name : String) : DocumentNode := ⟨name, none⟩

/-- The identifier of a node: its own one, else its name. -/
def DocumentNode.identifier (n : DocumentNode) : String := n.id.getD n.name

/-- Two links say the same: their values are equal as numbers. -/
def DocumentLink.same (a b : DocumentLink) : Bool :=
  a.source == b.source && a.target == b.target && a.value == b.value

/-- Two documents say the same, in the same order. -/
def Document.same (a b : Document) : Bool :=
  decide (a.nodes = b.nodes) && a.links.length == b.links.length &&
    (a.links.zip b.links).all fun (l, m) => l.same m

end NeighborGraph
