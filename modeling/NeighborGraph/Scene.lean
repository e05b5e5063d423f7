import NeighborGraph.Frame.Basic
import NeighborGraph.Layout.Override

/-!
A simulation on show: it is drawn in a style, and a pointer can take hold of its nodes.

Pressing on a box pins its node, moving the pointer drags the node along so that the pointer keeps
its spot on the box, and releasing gives the node back to the simulation. At most one node is held.
-/

namespace NeighborGraph

/-- A node in the hold of the pointer. -/
structure Grab (α : Type) where
  /-- The node. -/
  node : NodeId
  /-- The way from the pointer to the position of the node. -/
  offset : Point α
  deriving DecidableEq

/-- A simulation on show. -/
structure Scene (α : Type) where
  /-- The simulation. -/
  simulation : Simulation α
  /-- How it is drawn. -/
  style : Style α
  /-- What the pointer holds. -/
  grab? : Option (Grab α)

variable {α : Type}

namespace Scene

/-- A simulation on show, with no node held. -/
def ofSimulation (simulation : Simulation α) (style : Style α) : Scene α :=
  ⟨simulation, style, none⟩

/-- The node that the pointer holds. -/
def held? (scene : Scene α) : Option NodeId := scene.grab?.map (·.node)

/-- Lets go of the held node, if there is one; the answer is that node. -/
def release (scene : Scene α) : Scene α × Except PositionFault (Option NodeId) :=
  match scene.grab? with
  | none => (scene, .ok none)
  | some grab =>
    let scene := { scene with grab? := none }
    match scene.simulation.unpin grab.node with
    | .ok simulation => ({ scene with simulation }, .ok (some grab.node))
    | .error fault => (scene, .error fault)

variable [Scalar α]

/-- The frame of the current positions. -/
def frame (scene : Scene α) : Frame α := scene.style.draw scene.simulation.graph

/-- The node that a pointer at a point is on. -/
def hit? (scene : Scene α) (point : Point α) : Option NodeId :=
  scene.style.topmost? scene.simulation.graph point

/-- Takes hold of a node with the pointer at a point. -/
def take (scene : Scene α) (id : NodeId) (point : Point α) : Except PositionFault (Scene α) := do
  let some node := scene.simulation.graph.find? id | throw (.unknownNode id)
  let simulation ← scene.simulation.pin id
  return { scene with simulation, grab? := some ⟨id, node.position - point⟩ }

/-- Presses the pointer on a point: lets go of a held node first, and takes hold of the node under
the pointer, if there is one; the answer is that node. -/
def press (scene : Scene α) (point : Point α) : Scene α × Except PositionFault (Option NodeId) :=
  match scene.release with
  | (scene, .error fault) => (scene, .error fault)
  | (scene, .ok _) =>
    match scene.hit? point with
    | none => (scene, .ok none)
    | some id =>
      match scene.take id point with
      | .ok scene => (scene, .ok (some id))
      | .error fault => (scene, .error fault)

/-- Moves the pointer to a point; the answer is whether a node moved along. -/
def moveTo (scene : Scene α) (point : Point α) : Scene α × Except PositionFault Bool :=
  match scene.grab? with
  | none => (scene, .ok false)
  | some grab =>
    match scene.simulation.move grab.node (point + grab.offset) with
    | .ok simulation => ({ scene with simulation }, .ok true)
    | .error fault => (scene, .error fault)

/-- The scene after one step of the simulation. -/
def step (scene : Scene α) (timeStep : α) : Scene α :=
  { scene with simulation := scene.simulation.step timeStep }

end Scene

end NeighborGraph
