import NeighborGraph.Layout.Override
import NeighborGraph.Proofs.Except
import NeighborGraph.Proofs.Graph.Nodewise

/-!
# What the layout does to a graph

Scattering, stepping and overriding change nodes one by one (`Graph.Nodewise`): a step moves each
node by a force of its own and leaves pinned nodes where they are, and an override changes the one
node that it names. The forces of a step are as many as the nodes, and between nodes of a
well-formed graph they refer to positions of nodes only.
-/

namespace NeighborGraph

variable {α : Type} [Scalar α]

/-! ## Forces -/

/-- Adding a force of two nodes leaves as many forces as there are. -/
theorem MutualForce.size_addTo (m : MutualForce α) (forces : Array (Point α)) :
    (m.addTo forces).size = forces.size := by
  simp [addTo]

/-- The pairs of numbers below a bound are those in which the first one is the smaller. -/
theorem mem_pairsBelow {n : Nat} {pair : Nat × Nat} :
    pair ∈ pairsBelow n ↔ pair.1 < pair.2 ∧ pair.2 < n := by
  obtain ⟨i, j⟩ := pair
  simp only [pairsBelow, List.mem_flatMap, List.mem_range, List.mem_map, List.mem_range'_1,
    Prod.mk.injEq]
  constructor
  · rintro ⟨_, hi, _, ⟨hle, hlt⟩, rfl, rfl⟩
    omega
  · rintro ⟨hlt, hn⟩
    exact ⟨i, by omega, j, by omega, rfl, rfl⟩

namespace Graph

/-- There is one net force for each node. -/
theorem size_netForces (g : Graph α) (p : ForceParameters α) (center : Point α) :
    (g.netForces p center).size = g.nodeCount := by
  have hsize : ∀ (ms : List (MutualForce α)) (forces : Array (Point α)),
      (ms.foldl (fun forces m => m.addTo forces) forces).size = forces.size := by
    intro ms
    induction ms with
    | nil => exact fun _ => rfl
    | cons m rest ih => exact fun forces => (ih _).trans (m.size_addTo forces)
  unfold netForces
  split
  · simp [hsize, nodeCount]
  · simp [hsize]

/-- In a well-formed graph every force between nodes is computed from, and acts on, positions of
nodes. -/
theorem WellFormed.mutualForces_lt {g : Graph α} (hg : g.WellFormed) (p : ForceParameters α) :
    ∀ m ∈ g.mutualForces p, m.first < g.nodeCount ∧ m.second < g.nodeCount := by
  intro m hm
  rcases List.mem_append.1 hm with hm | hm
  · obtain ⟨⟨i, j⟩, hij, rfl⟩ := List.mem_map.1 hm
    obtain ⟨hlt, hn⟩ := mem_pairsBelow.1 hij
    exact ⟨Nat.lt_trans hlt hn, hn⟩
  · obtain ⟨l, hl, rfl⟩ := List.mem_map.1 hm
    exact hg.link_lt (Array.mem_toList_iff.1 (List.mem_filter.1 hl).1)

end Graph

namespace Simulation

/-! ## Steps -/

/-- A step moves every node by a force of its own. -/
theorem nodewise_step (sim : Simulation α) (timeStep : α) :
    sim.graph.Nodewise
      (fun node node' => ∃ force,
        node' = node.advance sim.forces (Scalar.toMagnitude timeStep) force)
      (sim.step timeStep).graph := by
  refine ⟨rfl, fun i => ?_⟩
  change Option.Rel _ _ (Array.zipWith _ _ _)[i]?
  rw [Array.getElem?_zipWith']
  cases hn : sim.graph.nodes[i]? with
  | none => exact .none
  | some node =>
    have hlt : i < sim.netForces.size := by
      rw [netForces, Graph.size_netForces]
      exact (Array.getElem?_eq_some_iff.1 hn).1
    rw [Array.getElem?_eq_getElem hlt]
    exact .some ⟨_, rfl⟩

@[simp] theorem steps_step (sim : Simulation α) (timeStep : α) :
    (sim.step timeStep).steps = sim.steps + 1 := rfl

/-- A node that moves keeps its names. -/
theorem keepsName_advance (p : ForceParameters α) (timeStep : α) :
    Graph.KeepsName fun node node' => ∃ force, node' = node.advance p timeStep force := by
  rintro node _ ⟨force, rfl⟩
  unfold Node.advance
  split <;> exact ⟨rfl, rfl⟩

@[simp] theorem shape_step (sim : Simulation α) (timeStep : α) :
    (sim.step timeStep).graph.shape = sim.graph.shape :=
  (sim.nodewise_step timeStep).shape_eq (keepsName_advance _ _)

/-! ## Scattering -/

/-- Scattering leaves each node in its position in the graph, and places it. -/
theorem getElem?_scatterNodes (area : Size α) (generator : Generator) (nodes : List (Node α))
    (i : Nat) :
    Option.Rel (fun node node' => ∃ position, node' = node.placedAt position) nodes[i]?
      (scatterNodes area generator nodes).1[i]? := by
  induction nodes generalizing generator i with
  | nil => simp [scatterNodes]
  | cons node rest ih =>
    cases i with
    | zero => exact .some ⟨_, rfl⟩
    | succ i => simpa [scatterNodes] using ih _ i

/-- Scattering succeeds exactly on graphs that pass the check; it puts every node somewhere at rest
and begins to count steps anew. -/
theorem scatter_eq_ok {sim sim' : Simulation α} {area : Size α} (h : sim.scatter area = .ok sim') :
    sim.graph.check = .ok () ∧ sim'.steps = 0 ∧
      sim.graph.Nodewise (fun node node' => ∃ position, node' = node.placedAt position)
        sim'.graph := by
  obtain ⟨_, hcheck, h⟩ := Except.bind_eq_ok.1 h
  cases h
  refine ⟨hcheck, rfl, rfl, fun i => ?_⟩
  have hi := getElem?_scatterNodes (⟨Scalar.toMagnitude area.width, Scalar.toMagnitude area.height⟩)
    sim.generator sim.graph.nodes.toList i
  rw [Array.getElem?_toList, ← List.getElem?_toArray] at hi
  exact hi

/-- What scattering leaves: the same forces, no motion that is known, and the scattered nodes. -/
theorem nodes_of_scatter_eq_ok {sim sim' : Simulation α} {area : Size α}
    (h : sim.scatter area = .ok sim') :
    sim'.forces = sim.forces ∧ sim'.motion? = none ∧
      sim'.graph.nodes = (scatterNodes
        ⟨Scalar.toMagnitude area.width, Scalar.toMagnitude area.height⟩ sim.generator
        sim.graph.nodes.toList).1.toArray := by
  obtain ⟨_, -, h⟩ := Except.bind_eq_ok.1 h
  cases h
  exact ⟨rfl, rfl, rfl⟩

/-- A graph that passes the check is scattered. -/
theorem exists_scatter_eq_ok {sim : Simulation α} (h : sim.graph.check = .ok ()) (area : Size α) :
    ∃ sim', sim.scatter area = .ok sim' :=
  ⟨_, Except.bind_eq_ok.2 ⟨(), h, rfl⟩⟩

/-- A node that is placed keeps its names. -/
theorem keepsName_placedAt :
    Graph.KeepsName fun node node' : Node α => ∃ position, node' = node.placedAt position := by
  rintro node _ ⟨position, rfl⟩
  exact ⟨rfl, rfl⟩

/-! ## Overrides -/

section
omit [Scalar α]
variable {sim sim' : Simulation α} {id : NodeId} {node : Node α}
  {change : Node α → Except PositionFault (Node α)}

/-- Overriding a node that is there is a matter of the change alone. -/
theorem override_of_find? (hf : sim.graph.find? id = some node)
    (change : Node α → Except PositionFault (Node α)) :
    ∃ index, sim.graph.position? id = some index ∧ sim.graph.nodes[index]? = some node ∧
      sim.override id change = (change node).map fun changed =>
        { sim with graph := sim.graph.modifyNode index fun _ => changed, motion? := none } := by
  rw [Graph.find?, Array.find?_eq_bind_findIdx?_getElem?, Option.bind_eq_some_iff] at hf
  obtain ⟨index, hp, hn⟩ := hf
  refine ⟨index, hp, hn, ?_⟩
  change sim.graph.position? id = some index at hp
  simp only [override, hp, hn]
  cases change node <;> rfl

/-- A node that is not there cannot be overridden. -/
theorem override_of_find?_eq_none (hf : sim.graph.find? id = none)
    (change : Node α → Except PositionFault (Node α)) :
    sim.override id change = .error (.unknownNode id) := by
  rw [Graph.find?, Array.find?_eq_bind_findIdx?_getElem?, Option.bind_eq_none_iff] at hf
  cases hp : sim.graph.position? id with
  | none => simp only [override, hp]; rfl
  | some index => simp only [override, hp, hf index hp]; rfl

/-- All that an override which succeeds does: it changes the node found under the identifier and
forgets the motion. -/
theorem override_eq_ok (h : sim.override id change = .ok sim') :
    ∃ index node changed, sim.graph.nodes[index]? = some node ∧ change node = .ok changed ∧
      sim' =
        { sim with graph := sim.graph.modifyNode index fun _ => changed, motion? := none } := by
  cases hf : sim.graph.find? id with
  | none =>
    rw [override_of_find?_eq_none hf] at h
    cases h
  | some node =>
    obtain ⟨index, -, hn, ho⟩ := override_of_find? hf change
    rw [ho] at h
    cases hc : change node with
    | error fault => rw [hc] at h; cases h
    | ok changed => rw [hc] at h; cases h; exact ⟨index, node, changed, hn, hc, rfl⟩

/-- An override that keeps the name of a node keeps the shape of the graph. -/
theorem shape_of_override_eq_ok
    (hname : ∀ node changed, change node = .ok changed →
      changed.id = node.id ∧ changed.label = node.label)
    (h : sim.override id change = .ok sim') : sim'.graph.shape = sim.graph.shape := by
  obtain ⟨index, node, changed, hn, hc, rfl⟩ := override_eq_ok h
  refine Prod.ext (List.ext_getElem? fun i => ?_) rfl
  simp only [Graph.shape, Graph.modifyNode, List.getElem?_map, Array.getElem?_toList,
    Array.getElem?_modify]
  split
  · next hi => rw [← hi, hn]; simp [hname node changed hc]
  · rfl

/-- What holds of all nodes, and of a node after the change if it has held before, holds of all
nodes after an override. -/
theorem forall_of_override_eq_ok {P : Node α → Prop} (hnodes : ∀ node ∈ sim.graph.nodes, P node)
    (hchange : ∀ node changed, change node = .ok changed → P node → P changed)
    (h : sim.override id change = .ok sim') : ∀ node ∈ sim'.graph.nodes, P node := by
  obtain ⟨index, node, changed, hn, hc, rfl⟩ := override_eq_ok h
  intro node' hn'
  obtain ⟨i, hi⟩ := Array.mem_iff_getElem?.1 hn'
  rw [Graph.modifyNode, Array.getElem?_modify] at hi
  split at hi
  · next heq =>
    rw [← heq, hn] at hi
    cases hi
    exact hchange node changed hc (hnodes node (Array.mem_of_getElem? hn))
  · exact hnodes node' (Array.mem_of_getElem? hi)

/-- An override of a node that is there, with a change that applies to it, changes exactly this node
where identifiers are distinct, and forgets the motion. -/
theorem exists_override_eq_ok (hnd : sim.graph.ids.Nodup) (hf : sim.graph.find? id = some node)
    (changed : Node α → Node α) (hc : change node = .ok (changed node)) :
    ∃ sim', sim.override id change = .ok sim' ∧
      sim' = { sim with graph := sim'.graph, motion? := none } ∧
      sim.graph.Nodewise (fun node node' => node' = if node.id = id then changed node else node)
        sim'.graph := by
  obtain ⟨index, hp, hn, ho⟩ := override_of_find? hf change
  have hmodify : (sim.graph.modifyNode index fun _ => changed node) =
      sim.graph.modifyNode index changed := by
    refine congrArg (fun nodes => ({ sim.graph with nodes } : Graph α)) ?_
    refine Array.ext_getElem? fun i => ?_
    rw [Array.getElem?_modify, Array.getElem?_modify]
    split
    · next hi => rw [← hi, hn]; rfl
    · rfl
  rw [hc] at ho
  refine ⟨_, ho, rfl, ?_⟩
  dsimp only
  rw [hmodify]
  exact Graph.nodewise_modifyNode hnd hp changed

/-- A pinned node can be moved; it keeps all but its position. -/
theorem exists_move_eq_ok (hnd : sim.graph.ids.Nodup) (hf : sim.graph.find? id = some node)
    (hpinned : node.pinned = true) (position : Point α) :
    ∃ sim', sim.move id position = .ok sim' ∧
      sim' = { sim with graph := sim'.graph, motion? := none } ∧
      sim.graph.Nodewise
        (fun node node' => node' = if node.id = id then { node with position } else node)
        sim'.graph :=
  exists_override_eq_ok hnd hf (fun node => { node with position }) (if_pos hpinned)

/-- A node can be given back whether it is pinned or not; it keeps its position and velocity. -/
theorem exists_unpin_eq_ok (hnd : sim.graph.ids.Nodup) (hf : sim.graph.find? id = some node) :
    ∃ sim', sim.unpin id = .ok sim' ∧
      sim' = { sim with graph := sim'.graph, motion? := none } ∧
      sim.graph.Nodewise
        (fun node node' => node' = if node.id = id then { node with pinned := false } else node)
        sim'.graph :=
  exists_override_eq_ok hnd hf (fun node => { node with pinned := false }) rfl

end

/-- A node can be pinned whether it is pinned already or not; it keeps its position and comes to
rest. -/
theorem exists_pin_eq_ok {sim : Simulation α} {id : NodeId} {node : Node α}
    (hnd : sim.graph.ids.Nodup) (hf : sim.graph.find? id = some node) :
    ∃ sim', sim.pin id = .ok sim' ∧
      sim' = { sim with graph := sim'.graph, motion? := none } ∧
      sim.graph.Nodewise
        (fun node node' => node' =
          if node.id = id then { node with pinned := true, velocity := .origin } else node)
        sim'.graph :=
  exists_override_eq_ok hnd hf (fun node => { node with pinned := true, velocity := .origin }) rfl

end Simulation

end NeighborGraph
