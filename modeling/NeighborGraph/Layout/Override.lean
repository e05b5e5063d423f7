import NeighborGraph.Layout.Simulation

/-!
Nodes under outside control.

A pinned node keeps its position in every step and can be moved; a free one cannot. Each of these
changes makes the simulation forget what it knew about the motion.
-/

namespace NeighborGraph

/-- Why the position of a node could not be set from outside. -/
inductive PositionFault where
  /-- No node has the identifier. -/
  | unknownNode (id : NodeId)
  /-- The simulation still controls the node. -/
  | notPinned (id : NodeId)
  deriving DecidableEq

/-- The reason in words. -/
def PositionFault.message : PositionFault → String
  | unknownNode id => "unknown node `" ++ id.text ++ "`"
  | notPinned id => "node `" ++ id.text ++ "` must be pinned before it can be moved directly"

namespace Simulation

variable {α : Type}

/-- The simulation with one node changed from outside, if the change applies to it. -/
def override (sim : Simulation α) (id : NodeId)
    (change : Node α → Except PositionFault (Node α)) : Except PositionFault (Simulation α) := do
  let some index := sim.graph.position? id | throw (.unknownNode id)
  let some node := sim.graph.nodes[index]? | throw (.unknownNode id)
  let changed ← change node
  return { sim with graph := sim.graph.modifyNode index fun _ => changed, motion? := none }

/-- Takes a node out of the control of the simulation; it comes to rest. -/
def pin [Scalar α] (sim : Simulation α) (id : NodeId) : Except PositionFault (Simulation α) :=
  sim.override id fun node => .ok { node with pinned := true, velocity := .origin }

/-- Moves a pinned node. -/
def move (sim : Simulation α) (id : NodeId) (position : Point α) :
    Except PositionFault (Simulation α) :=
  sim.override id fun node =>
    if node.pinned then .ok { node with position } else .error (.notPinned id)

/-- Gives a node back to the simulation. -/
def unpin (sim : Simulation α) (id : NodeId) : Except PositionFault (Simulation α) :=
  sim.override id fun node => .ok { node with pinned := false }

end Simulation

end NeighborGraph
