import NeighborGraph.Proofs.Layout.Changes

/-!
# Steps in a row

A simulation that is left to itself only makes steps (`Simulation.stepped`). Each node comes from
the same node before the step, under the force that acts on it there
(`Simulation.exists_of_getElem?_step`), and what a step records of the motion are running maxima
over the nodes that are free (`greatestFree_eq_foldl`).
-/

namespace NeighborGraph

/-! ## The greatest value of the free nodes -/

section GreatestFree

variable {α : Type}

/-- The values that free nodes have with the forces on them, in order. -/
def freeValues (measure : Node α → Point α → α) (nodes : Array (Node α))
    (forces : Array (Point α)) : List α :=
  ((nodes.zip forces).toList.filter fun (node, _) => !node.pinned).map
    fun (node, force) => measure node force

/-- The greatest value of free nodes is found by comparing one after another, from zero on. -/
theorem greatestFree_eq_foldl [Scalar α] (measure : Node α → Point α → α) (nodes : Array (Node α))
    (forces : Array (Point α)) :
    greatestFree measure nodes forces =
      (freeValues measure nodes forces).foldl Scalar.greater 0 := by
  unfold greatestFree freeValues
  rw [← Array.foldl_toList, List.foldl_map, List.foldl_filter]
  congr 1
  funext greatest ⟨node, force⟩
  cases hpinned : node.pinned <;> simp [hpinned]

/-- The value of a free node is among those that are compared. -/
theorem mem_freeValues {measure : Node α → Point α → α} {nodes : Array (Node α)}
    {forces : Array (Point α)} {i : Nat} {node : Node α} {force : Point α}
    (hn : nodes[i]? = some node) (hf : forces[i]? = some force) (hfree : node.pinned = false) :
    measure node force ∈ freeValues measure nodes forces := by
  refine List.mem_map.2 ⟨(node, force), List.mem_filter.2 ⟨?_, by simp [hfree]⟩, rfl⟩
  refine Array.mem_toList_iff.2 (Array.mem_of_getElem? (i := i) ?_)
  rw [Array.zip, Array.getElem?_zipWith', hn, hf]
  rfl

end GreatestFree

variable {α : Type} [Scalar α]

/-- A step neither pins a node nor frees one. -/
theorem Node.pinned_advance (node : Node α) (p : ForceParameters α) (timeStep : α)
    (force : Point α) : (node.advance p timeStep force).pinned = node.pinned := by
  unfold advance
  split <;> rfl

namespace Simulation

/-! ## One step -/

/-- A force acts on each node. -/
theorem exists_getElem?_netForces {sim : Simulation α} {i : Nat} {node : Node α}
    (h : sim.graph.nodes[i]? = some node) : ∃ force, sim.netForces[i]? = some force := by
  have hlt : i < sim.netForces.size := by
    rw [netForces, Graph.size_netForces]
    exact (Array.getElem?_eq_some_iff.1 h).1
  exact ⟨_, Array.getElem?_eq_getElem hlt⟩

/-- Where a node goes in a step under the force that acts on it. -/
theorem getElem?_step {sim : Simulation α} {i : Nat} {node : Node α} {force : Point α}
    (hn : sim.graph.nodes[i]? = some node) (hf : sim.netForces[i]? = some force) (timeStep : α) :
    (sim.step timeStep).graph.nodes[i]? =
      some (node.advance sim.forces (Scalar.toMagnitude timeStep) force) := by
  change (Array.zipWith _ sim.graph.nodes sim.netForces)[i]? = _
  rw [Array.getElem?_zipWith', hn, hf]
  rfl

/-- Where a node comes from in a step, and the force that has acted on it. -/
theorem exists_of_getElem?_step (sim : Simulation α) {timeStep : α} {i : Nat} {node' : Node α}
    (h : (sim.step timeStep).graph.nodes[i]? = some node') :
    ∃ node force, sim.graph.nodes[i]? = some node ∧ sim.netForces[i]? = some force ∧
      node' = node.advance sim.forces (Scalar.toMagnitude timeStep) force := by
  cases hn : sim.graph.nodes[i]? with
  | none =>
    change (Array.zipWith _ sim.graph.nodes sim.netForces)[i]? = some node' at h
    rw [Array.getElem?_zipWith', hn] at h
    cases h
  | some node =>
    obtain ⟨force, hf⟩ := exists_getElem?_netForces hn
    rw [getElem?_step hn hf] at h
    exact ⟨node, force, rfl, hf, (Option.some.inj h).symm⟩

/-- If all nodes are free they stay so in a step. -/
theorem free_step {sim : Simulation α} {timeStep : α}
    (h : ∀ node ∈ sim.graph.nodes, node.pinned = false) :
    ∀ node ∈ (sim.step timeStep).graph.nodes, node.pinned = false := by
  intro node' hnode'
  obtain ⟨node, hnode, force, rfl⟩ := (sim.nodewise_step timeStep).mem hnode'
  rw [Node.pinned_advance]
  exact h node hnode

/-! ## Many steps -/

/-- The simulation after a number of steps that take the same time. -/
def stepped (sim : Simulation α) (timeStep : α) : Nat → Simulation α
  | 0 => sim
  | n + 1 => (sim.stepped timeStep n).step timeStep

/-- What a step keeps is kept by any number of steps. -/
theorem of_stepped {P : Simulation α → Prop} {timeStep : α}
    (hP : ∀ sim, P sim → P (sim.step timeStep)) {sim : Simulation α} (h : P sim) (n : Nat) :
    P (sim.stepped timeStep n) := by
  induction n with
  | zero => exact h
  | succ n ih => exact hP _ ih

@[simp] theorem forces_stepped (sim : Simulation α) (timeStep : α) (n : Nat) :
    (sim.stepped timeStep n).forces = sim.forces :=
  of_stepped (P := fun later => later.forces = sim.forces) (fun _ h => h) rfl n

end Simulation

end NeighborGraph
