import NeighborGraph.Graph.Basic
import NeighborGraph.Layout.Parameters

/-!
The forces between nodes.

Every two nodes repel each other, every link pulls its ends to its rest length, and all nodes may be
pulled to a center. A force between two nodes acts on the one and, reversed, on the other:
`netForces` adds each of them up once.
-/

namespace NeighborGraph

variable {α : Type} [Scalar α]

namespace Point

/-- A unit vector for each pair of positions in the list of nodes, pointing from the second to the
first; exchanging the two reverses it. Nodes on the same spot are pushed apart along it. -/
@[specialize] def separating (first second : Nat) : Point α :=
  let along := fun (low high : Nat) =>
    let angle : α := 2.399963229728653 * (((low * 31 + high : Nat) : α) + 1)
    (⟨Scalar.cos angle, Scalar.sin angle⟩ : Point α)
  if first < second then along first second else (along second first).scale (-1)

/-- Two nodes nearer to each other than this count as being on the same spot. -/
def coincident : α := 1e-9

/-- The unit vector from one node to another and their distance. Nodes on the same spot, or
infinitely far from each other, count as being at distance zero. -/
@[specialize] def heading (start stop : Point α) (startIndex stopIndex : Nat) : Point α × α :=
  let way := stop - start
  let distance := way.length
  if coincident < distance ∧ Scalar.isFinite distance then (way.scale (1 / distance), distance)
  else (separating stopIndex startIndex, 0)

end Point

namespace ForceParameters

/-- How strongly two nodes at a distance repel each other. -/
@[specialize] def repulsionAt (p : ForceParameters α) (distance : α) : α :=
  p.charge / (distance * distance + p.minDistance * p.minDistance)

/-- The force on a node that another one repels. -/
@[specialize] def repulsion (p : ForceParameters α) (position other : Point α)
    (index otherIndex : Nat) : Point α :=
  let (away, distance) := other.heading position otherIndex index
  away.scale (p.repulsionAt distance)

/-- The force on the source of a link: to the target if the link is too long, and away from it if
the link is too short. -/
@[specialize] def pull (p : ForceParameters α) (source target : Point α)
    (sourceIndex targetIndex : Nat) : Point α :=
  let (towards, distance) := source.heading target sourceIndex targetIndex
  towards.scale (p.spring * (distance - p.restLength))

/-- The force that pulls a node to the center. -/
@[specialize] def centering (p : ForceParameters α) (center position : Point α) : Point α :=
  (center - position).scale p.gravity

end ForceParameters

/-- A force between two nodes, given by their positions in the list of nodes. -/
structure MutualForce (α : Type) where
  /-- The node that the force acts on. -/
  first : Nat
  /-- The node that the reversed force acts on. -/
  second : Nat
  /-- The force on the first node. -/
  force : Point α

/-- The forces with a force between two nodes added. -/
@[specialize] def MutualForce.addTo (m : MutualForce α) (forces : Array (Point α)) :
    Array (Point α) :=
  (forces.modify m.first (· + m.force)).modify m.second (· - m.force)

/-- All pairs of numbers below `n`, the smaller one first, in lexicographic order. -/
def pairsBelow (n : Nat) : List (Nat × Nat) :=
  (List.range n).flatMap fun i => (List.range' (i + 1) (n - (i + 1))).map fun j => (i, j)

namespace Graph

/-- Where a node is; the origin if there is no such node. -/
@[specialize] def positionOf (g : Graph α) (index : Nat) : Point α :=
  match g.nodes[index]? with
  | some node => node.position
  | none => .origin

/-- The force by which two nodes repel each other. -/
@[specialize] def repulsionBetween (g : Graph α) (p : ForceParameters α) (i j : Nat) :
    MutualForce α :=
  ⟨i, j, p.repulsion (g.positionOf i) (g.positionOf j) i j⟩

/-- The force by which a link pulls its ends. -/
@[specialize] def pullOf (g : Graph α) (p : ForceParameters α) (l : Link α) : MutualForce α :=
  let (i, j) := (l.sourceIndex, l.targetIndex)
  ⟨i, j, p.pull (g.positionOf i) (g.positionOf j) i j⟩

/-- The forces between nodes: first those of all pairs, then those of the links that have two
ends. -/
@[specialize] def mutualForces (g : Graph α) (p : ForceParameters α) : List (MutualForce α) :=
  (pairsBelow g.nodeCount).map (fun (i, j) => g.repulsionBetween p i j) ++
    (g.links.toList.filter fun l => !l.isLoop).map (g.pullOf p)

/-- The net force on each node. -/
@[specialize] def netForces (g : Graph α) (p : ForceParameters α) (center : Point α) :
    Array (Point α) :=
  let between := (g.mutualForces p).foldl (fun forces m => m.addTo forces)
    (Array.replicate g.nodeCount .origin)
  if 0 < p.gravity then
    between.zipWith (fun force node => force + p.centering center node.position) g.nodes
  else between

end Graph

end NeighborGraph
