import NeighborGraph.Proofs.Graph.WellFormed

/-!
# Changes to the nodes of a graph

Once a graph has been built, only the states of its nodes change. `Graph.Nodewise R` says that a
graph has become another one by a change of each node of which `R` tells; where `R` keeps names, the
shape of the graph is the same before and after (`Graph.Nodewise.shape_eq`). Changing the node that
a look-up finds is such a change (`Graph.nodewise_modifyNode`).
-/

namespace NeighborGraph

variable {α : Type}

namespace Graph

/-- Every node of the first graph has become the node of the second one at its position, changed as
`R` says, and the links are the same. -/
structure Nodewise (R : Node α → Node α → Prop) (g g' : Graph α) : Prop where
  links : g'.links = g.links
  nodes : ∀ i : Nat, Option.Rel R g.nodes[i]? g'.nodes[i]?

/-- A change that keeps the name of a node. -/
def KeepsName (R : Node α → Node α → Prop) : Prop :=
  ∀ node node', R node node' → node'.id = node.id ∧ node'.label = node.label

variable {R S : Node α → Node α → Prop} {g g' : Graph α}

/-- A change of single nodes keeps their names if it keeps identifiers and labels. -/
theorem KeepsName.of_eq {change : Node α → Node α}
    (h : ∀ node, (change node).id = node.id ∧ (change node).label = node.label) :
    KeepsName fun node node' => node' = change node := by
  rintro node _ rfl
  exact h node

/-- A graph has become itself by changes that leave its nodes as they are. -/
theorem nodewise_refl (hR : ∀ node ∈ g.nodes, R node node) : g.Nodewise R g := by
  refine ⟨rfl, fun i => ?_⟩
  cases hn : g.nodes[i]? with
  | none => exact .none
  | some node => exact .some (hR node (Array.mem_of_getElem? hn))

/-- Nodes that are related are so by a weaker relation. -/
theorem Nodewise.imp (h : g.Nodewise R g')
    (hRS : ∀ node ∈ g.nodes, ∀ node', R node node' → S node node') : g.Nodewise S g' := by
  refine ⟨h.links, fun i => ?_⟩
  have hi := h.nodes i
  have hmem : ∀ node, g.nodes[i]? = some node → node ∈ g.nodes := fun _ => Array.mem_of_getElem?
  generalize g.nodes[i]? = a, g'.nodes[i]? = b at hi hmem
  cases hi with
  | none => exact .none
  | some hR => exact .some (hRS _ (hmem _ rfl) _ hR)

/-- Two changes of the nodes, one after the other. -/
theorem Nodewise.comp {g'' : Graph α} (h : g.Nodewise R g') (h' : g'.Nodewise S g'') :
    g.Nodewise (fun node node'' => ∃ node', R node node' ∧ S node' node'') g'' := by
  refine ⟨h'.links.trans h.links, fun i => ?_⟩
  have hi := h.nodes i
  have hi' := h'.nodes i
  generalize g.nodes[i]? = a, g'.nodes[i]? = b, g''.nodes[i]? = c at hi hi'
  cases hi with
  | none => cases hi'; exact .none
  | some hR => cases hi' with | some hS => exact .some ⟨_, hR, hS⟩

/-- Every node of the changed graph comes from one of the graph before. -/
theorem Nodewise.mem {node' : Node α} (h : g.Nodewise R g') (hn : node' ∈ g'.nodes) :
    ∃ node ∈ g.nodes, R node node' := by
  obtain ⟨i, hi⟩ := Array.mem_iff_getElem?.1 hn
  have hrel := h.nodes i
  have hmem : ∀ node, g.nodes[i]? = some node → node ∈ g.nodes := fun _ => Array.mem_of_getElem?
  rw [hi] at hrel
  generalize g.nodes[i]? = a at hrel hmem
  cases hrel with
  | some hR => exact ⟨_, hmem _ rfl, hR⟩

/-- A change of the nodes that keeps their names keeps the shape of the graph. -/
theorem Nodewise.shape_eq (h : g.Nodewise R g') (hR : KeepsName R) : g'.shape = g.shape := by
  refine Prod.ext (List.ext_getElem? fun i => ?_) h.links
  have hi := h.nodes i
  simp only [shape, List.getElem?_map, Array.getElem?_toList]
  generalize g.nodes[i]? = a, g'.nodes[i]? = b at hi
  cases hi with
  | none => rfl
  | some hnode => simp [hR _ _ hnode]

/-- A look-up finds a node of the graph that has the identifier. -/
theorem mem_of_find? {id : NodeId} {node : Node α} (h : g.find? id = some node) :
    node ∈ g.nodes ∧ node.id = id := by
  have hid : (node.id == id) = true := Array.find?_some (p := fun node : Node α => node.id == id) h
  exact ⟨Array.mem_of_find?_eq_some h, eq_of_beq hid⟩

/-- Among distinct identifiers a look-up finds exactly the nodes of the graph. -/
theorem find?_eq_some_iff (hnd : g.ids.Nodup) {id : NodeId} {node : Node α} :
    g.find? id = some node ↔ node ∈ g.nodes ∧ node.id = id := by
  constructor
  · exact mem_of_find?
  · rintro ⟨hmem, rfl⟩
    obtain ⟨i, hi, rfl⟩ := Array.mem_iff_getElem.1 hmem
    have hp := (position?_eq_some_iff hnd).2 (show g.ids[i]? = some g.nodes[i].id by simp [hi])
    rw [Graph.find?, Array.find?_eq_bind_findIdx?_getElem?]
    change (g.position? _).bind _ = _
    rw [hp]
    simp [hi]

/-- Distinct identifiers tell nodes apart. -/
theorem eq_of_id_eq (hnd : g.ids.Nodup) {node node' : Node α} (hn : node ∈ g.nodes)
    (hn' : node' ∈ g.nodes) (hid : node.id = node'.id) : node = node' := by
  have hf := (find?_eq_some_iff hnd).2 ⟨hn, hid⟩
  have hf' := (find?_eq_some_iff hnd).2 ⟨hn', rfl⟩
  exact Option.some.inj (hf.symm.trans hf')

/-- A node with an identifier of the graph is found. -/
theorem exists_find?_of_mem_ids {id : NodeId} (h : id ∈ g.ids) :
    ∃ node, g.find? id = some node := by
  obtain ⟨node, hn, rfl⟩ := List.mem_map.1 h
  refine Option.isSome_iff_exists.1 (Array.find?_isSome.2 ⟨node, ?_, beq_self_eq_true _⟩)
  exact Array.mem_toList_iff.1 hn

/-- Changing the one node with an identifier changes exactly the node that is found under it. -/
theorem nodewise_modifyNode (hnd : g.ids.Nodup) {id : NodeId} {index : Nat}
    (hp : g.position? id = some index) (change : Node α → Node α) :
    g.Nodewise (fun node node' => node' = if node.id = id then change node else node)
      (g.modifyNode index change) := by
  refine ⟨rfl, fun i => ?_⟩
  rw [position?_eq_some_iff hnd] at hp
  have hi : (g.modifyNode index change).nodes[i]? =
      if index = i then (g.nodes[i]?).map change else g.nodes[i]? := Array.getElem?_modify
  rw [hi]
  cases hn : g.nodes[i]? with
  | none =>
    split <;> exact .none
  | some node =>
    have hid : index = i ↔ node.id = id := by
      have hat : g.ids[i]? = some node.id := by simp [hn]
      constructor
      · rintro rfl
        exact Option.some.inj (hat.symm.trans hp)
      · rintro rfl
        rw [← position?_eq_some_iff hnd] at hat hp
        exact Option.some.inj (hp.symm.trans hat)
    by_cases h : index = i
    · rw [if_pos h]
      exact .some (by rw [if_pos (hid.1 h)])
    · rw [if_neg h]
      exact .some (by rw [if_neg (mt hid.2 h)])

end Graph

end NeighborGraph
