import NeighborGraph.Geometry.Bounds
import NeighborGraph.Layout.Forces
import NeighborGraph.Random.Generator

/-!
The simulation: nodes are scattered over an area and then move under their forces, step by step.

A step computes all forces from the positions before it. What a step records about the motion
decides `isConverged`: no node moved far, and none can move far in the steps to come.
-/

namespace NeighborGraph

/-- What a step records about the motion. -/
structure Motion (α : Type) where
  /-- The greatest distance that a free node moved. -/
  displacement : α
  /-- The greatest distance that a free node can move in one of the next steps, judged by its
  velocity and the force on it. -/
  reach : α
  deriving DecidableEq

/-- A graph in motion. -/
structure Simulation (α : Type) where
  /-- The constants of the forces. -/
  forces : ForceParameters α
  /-- Where the scattered positions come from. -/
  generator : Generator
  /-- The graph. -/
  graph : Graph α
  /-- The point that nodes are pulled to. -/
  center : Point α
  /-- The motion in the last step, unless nodes were moved from outside since. -/
  motion? : Option (Motion α)
  /-- The number of steps since the nodes were scattered. -/
  steps : Nat
  deriving DecidableEq

variable {α : Type} [Scalar α]

namespace Node

/-- The node at another place and at rest. -/
def placedAt (node : Node α) (position : Point α) : Node α :=
  { node with position, velocity := .origin }

/-- The velocity with which a node moves in a step, after its force has acted on it. -/
@[specialize] def drive (node : Node α) (p : ForceParameters α) (timeStep : α) (force : Point α) :
    Point α :=
  node.velocity + (force.clampLength p.maxForce).scale timeStep

/-- The way that a node goes in a step. -/
@[specialize] def stride (node : Node α) (p : ForceParameters α) (timeStep : α) (force : Point α) :
    Point α :=
  (node.drive p timeStep force).scale timeStep

/-- The node after a step under a force. A pinned node stays where it is and comes to rest. -/
@[specialize] def advance (node : Node α) (p : ForceParameters α) (timeStep : α)
    (force : Point α) : Node α :=
  if node.pinned then { node with velocity := .origin }
  else
    { node with
      position := node.position + node.stride p timeStep force
      velocity := (node.drive p timeStep force).scale p.damping }

/-- How far a node can move in one of the next steps under a steady force: its velocity counts
once more for each step, damped, and so does what the force adds. -/
@[specialize] def reach (node : Node α) (p : ForceParameters α) (timeStep : α) (force : Point α) :
    α :=
  (node.velocity.length * timeStep +
    (force.clampLength p.maxForce).length * timeStep * timeStep) / (1 - p.damping)

end Node

/-- The greatest of the values that free nodes have with the forces on them, or zero. -/
@[specialize] def greatestFree (measure : Node α → Point α → α) (nodes : Array (Node α))
    (forces : Array (Point α)) : α :=
  (nodes.zip forces).foldl
    (fun greatest (node, force) =>
      if node.pinned then greatest else Scalar.greater greatest (measure node force)) 0

namespace Simulation

/-- A simulation before its nodes have been scattered. -/
def ofGraph (forces : ForceParameters α) (generator : Generator) (graph : Graph α) :
    Simulation α :=
  ⟨forces, generator, graph, .origin, none, 0⟩

/-- The nodes scattered over an area, and the generator afterwards: each node takes two draws, the
first one for its x coordinate. -/
def scatterNodes (area : Size α) (generator : Generator) :
    List (Node α) → List (Node α) × Generator
  | [] => ([], generator)
  | node :: rest =>
    let (x, generator) : α × Generator := generator.unit
    let (y, generator) : α × Generator := generator.unit
    let (scattered, generator) := scatterNodes area generator rest
    (node.placedAt ⟨x * area.width, y * area.height⟩ :: scattered, generator)

/-- The simulation begun anew with its nodes scattered over an area. A graph with a fault is
refused; an extent that is negative, infinite or undefined counts as zero. -/
def scatter (sim : Simulation α) (area : Size α) : Except (GraphFault α) (Simulation α) := do
  sim.graph.check
  let area : Size α := ⟨Scalar.toMagnitude area.width, Scalar.toMagnitude area.height⟩
  let (nodes, generator) := scatterNodes area sim.generator sim.graph.nodes.toList
  return { sim with
    generator
    graph := { sim.graph with nodes := nodes.toArray }
    center := area.center
    motion? := none
    steps := 0 }

/-- The net force on each node. -/
@[specialize] def netForces (sim : Simulation α) : Array (Point α) :=
  sim.graph.netForces sim.forces sim.center

/-- The simulation after a step that takes the given time; a time that is negative, infinite or
undefined counts as zero. -/
@[specialize] def step (sim : Simulation α) (timeStep : α) : Simulation α :=
  let timeStep := Scalar.toMagnitude timeStep
  let p := sim.forces
  let before := sim.netForces
  let nodes := sim.graph.nodes.zipWith (fun node force => node.advance p timeStep force) before
  let moved := { sim with graph := { sim.graph with nodes } }
  let displacement := greatestFree (fun node force => (node.stride p timeStep force).length)
    sim.graph.nodes before
  let reach := greatestFree (fun node force => node.reach p timeStep force) nodes moved.netForces
  { moved with motion? := some ⟨displacement, reach⟩, steps := sim.steps + 1 }

/-- The greatest distance that a node moved in the last step, unless nodes were moved from outside
since. -/
def displacement? (sim : Simulation α) : Option α := sim.motion?.map (·.displacement)

/-- In the last step all free nodes moved by less than a distance, and they will do so in the next
ones. Before the first step, and after nodes were moved from outside, this does not hold. -/
def isConverged (sim : Simulation α) (epsilon : α) : Bool :=
  match sim.motion? with
  | some motion => decide (motion.displacement < epsilon) && decide (motion.reach < epsilon)
  | none => false

end Simulation

end NeighborGraph
