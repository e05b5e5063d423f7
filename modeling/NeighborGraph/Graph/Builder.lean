import NeighborGraph.Document.Basic
import NeighborGraph.Graph.Basic

/-!
Building graphs.

Every step checks what it adds and leaves the graph alone if it refuses. A graph built from the
empty one by these steps passes `Graph.check`.
-/

namespace NeighborGraph

namespace Graph

variable {α : Type} [Scalar α]

/-- The graph with one more node, which rests at the origin. -/
def addNode (g : Graph α) (id : NodeId) (label : String) : Except (GraphFault α) (Graph α) :=
  if (g.position? id).isSome then .error (.duplicateNode id)
  else .ok { g with nodes := g.nodes.push ⟨id, label, .origin, .origin, false⟩ }

/-- The position of an end of the next link, given by its identifier. -/
def resolve (g : Graph α) (id : NodeId) : Except (GraphFault α) Nat :=
  match g.position? id with
  | some index => .ok index
  | none => .error (.unknownEnd g.linkCount id)

/-- The identifier of an end of the next link, given by its position. -/
def resolveIndex (g : Graph α) (index : Nat) : Except (GraphFault α) NodeId :=
  match g.nodes[index]? with
  | some node => .ok node.id
  | none => .error (.unknownPosition g.linkCount index g.nodeCount)

/-- The graph with one more link between nodes given by their identifiers. -/
def addLink (g : Graph α) (source target : NodeId) (weight : α) :
    Except (GraphFault α) (Graph α) := do
  let sourceIndex ← g.resolve source
  let targetIndex ← g.resolve target
  checkWeight g.linkCount weight
  return { g with links := g.links.push ⟨source, target, weight, sourceIndex, targetIndex⟩ }

/-- The graph with one more link between nodes given by their positions. -/
def addLinkAt (g : Graph α) (sourceIndex targetIndex : Nat) (weight : α) :
    Except (GraphFault α) (Graph α) := do
  let source ← g.resolveIndex sourceIndex
  let target ← g.resolveIndex targetIndex
  checkWeight g.linkCount weight
  return { g with links := g.links.push ⟨source, target, weight, sourceIndex, targetIndex⟩ }

end Graph

namespace Document

/-- The graph of a document: its nodes first, then its links, or the first fault. -/
def toGraph (d : Document) : Except (GraphFault Float) (Graph Float) := do
  let g ← d.nodes.foldlM (fun g node => g.addNode ⟨node.identifier⟩ node.name) Graph.empty
  d.links.foldlM (fun g link => g.addLinkAt link.source link.target link.value) g

end Document

end NeighborGraph
