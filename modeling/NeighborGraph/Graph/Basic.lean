import NeighborGraph.Decimal.Text
import NeighborGraph.Geometry.Point
import NeighborGraph.Ident

/-!
The graph that is laid out and drawn.

Nodes and links keep the order in which they were added. A link carries its end points twice, as
identifiers and as positions in the list of nodes; `Graph.check` says whether the two agree. Only
positions, velocities and pins change after a graph has been built.
-/

namespace NeighborGraph

/-- Why nodes and links make no graph. -/
inductive GraphFault (α : Type) where
  /-- A node has the identifier of an earlier one. -/
  | duplicateNode (id : NodeId)
  /-- The end of a link is not, or not where the link says, in the graph. -/
  | unknownEnd (link : Nat) (node : NodeId)
  /-- A link refers to a position that no node has. -/
  | unknownPosition (link position nodeCount : Nat)
  /-- The weight of a link is negative or not finite. -/
  | badWeight (link : Nat) (weight : α)

/-- A node with its state in the simulation. -/
structure Node (α : Type) where
  /-- The identifier. -/
  id : NodeId
  /-- The caption. -/
  label : String
  /-- Where the node is. -/
  position : Point α
  /-- How fast it moves, per unit of time. -/
  velocity : Point α
  /-- The position is under outside control. -/
  pinned : Bool
  deriving DecidableEq

/-- A weighted link. -/
structure Link (α : Type) where
  /-- The identifier of the node where the link begins. -/
  source : NodeId
  /-- The identifier of the node where the link ends. -/
  target : NodeId
  /-- The weight. -/
  weight : α
  /-- The position of the node where the link begins. -/
  sourceIndex : Nat
  /-- The position of the node where the link ends. -/
  targetIndex : Nat
  deriving DecidableEq

/-- The link begins and ends at the same node. -/
def Link.isLoop {α : Type} (l : Link α) : Bool := l.sourceIndex == l.targetIndex

/-- Nodes and the links between them. -/
structure Graph (α : Type) where
  /-- The nodes. -/
  nodes : Array (Node α)
  /-- The links. -/
  links : Array (Link α)
  deriving DecidableEq

variable {α : Type}

namespace GraphFault

/-- The fault in words. -/
def message : GraphFault Float → String
  | duplicateNode id => "duplicate node identifier `" ++ id.text ++ "`"
  | unknownEnd link node =>
    "link " ++ String.ofList (decimalText link) ++ " references unknown node `" ++ node.text ++ "`"
  | unknownPosition link position nodeCount =>
    "link " ++ String.ofList (decimalText link) ++ " references node index " ++
      String.ofList (decimalText position) ++ ", but only " ++
      String.ofList (decimalText nodeCount) ++ " nodes exist"
  | badWeight link weight =>
    "link " ++ String.ofList (decimalText link) ++ " has invalid weight " ++
      Double.plainText weight ++ "; weights must be finite and non-negative"

end GraphFault

namespace Graph

/-- The graph without nodes. -/
def empty : Graph α := ⟨#[], #[]⟩

/-- The number of nodes. -/
def nodeCount (g : Graph α) : Nat := g.nodes.size

/-- The number of links. -/
def linkCount (g : Graph α) : Nat := g.links.size

/-- The graph has no node. -/
def isEmpty (g : Graph α) : Bool := g.nodes.isEmpty

/-- The position of the node with an identifier. -/
def position? (g : Graph α) (id : NodeId) : Option Nat := g.nodes.findIdx? fun node => node.id == id

/-- The node with an identifier. -/
def find? (g : Graph α) (id : NodeId) : Option (Node α) := g.nodes.find? fun node => node.id == id

/-- The graph with the node at a position changed. -/
def modifyNode (g : Graph α) (index : Nat) (change : Node α → Node α) : Graph α :=
  { g with nodes := g.nodes.modify index change }

variable [Scalar α]

/-- The weight is finite and not negative. -/
def checkWeight (link : Nat) (weight : α) : Except (GraphFault α) Unit :=
  if Scalar.isMagnitude weight then .ok () else .error (.badWeight link weight)

/-- The node of one end of a link is where the link says. -/
def checkEnd (g : Graph α) (link : Nat) (id : NodeId) (index : Nat) : Except (GraphFault α) Unit :=
  if g.position? id = some index then .ok () else .error (.unknownEnd link id)

/-- Both ends and the weight of a link are in order. -/
def checkLink (g : Graph α) (number : Nat) (l : Link α) : Except (GraphFault α) Unit := do
  g.checkEnd number l.source l.sourceIndex
  g.checkEnd number l.target l.targetIndex
  checkWeight number l.weight

/-- All links from a number on are in order. -/
def checkLinks (g : Graph α) : Nat → List (Link α) → Except (GraphFault α) Unit
  | _, [] => .ok ()
  | number, l :: rest => do
    g.checkLink number l
    checkLinks g (number + 1) rest

/-- The first fault of a link, if there is one. -/
def check (g : Graph α) : Except (GraphFault α) Unit := g.checkLinks 0 g.links.toList

end Graph

end NeighborGraph
