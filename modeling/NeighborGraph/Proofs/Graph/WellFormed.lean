import Mathlib.Data.List.Nodup
import NeighborGraph.Graph.Builder

/-!
# Well-formed graphs

A graph names the ends of a link twice, by identifier and by position. In a well-formed graph
(`Graph.WellFormed`) identifiers are distinct and the two namings agree, so that a look-up by
identifier finds exactly the position that the link stores (`Graph.position?_eq_some_iff`) and
`Graph.check` finds no fault (`Graph.WellFormed.check`). All of this depends only on the shape of a
graph (`Graph.shape`), which leaves out the states of the nodes.
-/

namespace NeighborGraph

variable {α : Type}

namespace Graph

/-- The identifiers of the nodes, in their order. -/
def ids (g : Graph α) : List NodeId := g.nodes.toList.map (·.id)

/-- What a graph is apart from the states of its nodes: the identifier and the caption of each node,
and the links. -/
def shape (g : Graph α) : List (NodeId × String) × Array (Link α) :=
  (g.nodes.toList.map fun node => (node.id, node.label), g.links)

/-- Identifiers are distinct, the identifier of each end of a link is that of the node at the stored
position, and weights are finite and not negative. -/
structure WellFormed [Scalar α] (g : Graph α) : Prop where
  nodup_ids : g.ids.Nodup
  source_at : ∀ l ∈ g.links, g.ids[l.sourceIndex]? = some l.source
  target_at : ∀ l ∈ g.links, g.ids[l.targetIndex]? = some l.target
  isMagnitude_weight : ∀ l ∈ g.links, Scalar.isMagnitude l.weight = true

/-! ## Identifiers and positions -/

@[simp] theorem length_ids (g : Graph α) : g.ids.length = g.nodeCount := by
  simp [ids, nodeCount]

@[simp] theorem getElem?_ids (g : Graph α) (i : Nat) :
    g.ids[i]? = (g.nodes[i]?).map (·.id) := by
  simp [ids]

/-- A position at which an identifier stands is below the number of nodes. -/
theorem lt_nodeCount_of_getElem?_ids {g : Graph α} {i : Nat} {id : NodeId}
    (h : g.ids[i]? = some id) : i < g.nodeCount := by
  obtain ⟨hlt, -⟩ := List.getElem?_eq_some_iff.1 h
  simpa using hlt

/-- Graphs of the same shape have the same identifiers. -/
theorem ids_eq_of_shape_eq {g g' : Graph α} (h : g'.shape = g.shape) : g'.ids = g.ids := by
  have h' := congrArg (fun s => s.1.map Prod.fst) h
  simpa [shape, ids, Function.comp_def] using h'

/-- Looking up the position of an identifier is looking it up in the list of identifiers. -/
theorem position?_eq_idxOf? (g : Graph α) (id : NodeId) : g.position? id = g.ids.idxOf? id := by
  obtain ⟨⟨nodes⟩, links⟩ := g
  simp only [position?, ids, List.idxOf?, List.findIdx?_toArray, List.findIdx?_map]
  rfl

/-- An identifier has no position exactly if it is not that of a node. -/
theorem position?_eq_none_iff {g : Graph α} {id : NodeId} : g.position? id = none ↔ id ∉ g.ids := by
  rw [position?_eq_idxOf?, List.idxOf?_eq_none_iff]

/-- Among distinct identifiers a look-up finds exactly the position where the identifier stands. -/
theorem position?_eq_some_iff {g : Graph α} (hnd : g.ids.Nodup) {id : NodeId} {i : Nat} :
    g.position? id = some i ↔ g.ids[i]? = some id := by
  rw [position?_eq_idxOf?, List.idxOf?_eq_some_iff]
  constructor
  · rintro ⟨hlt, hid, -⟩
    rw [List.getElem?_eq_getElem hlt, hid]
  · intro h
    obtain ⟨hlt, rfl⟩ := List.getElem?_eq_some_iff.1 h
    refine ⟨hlt, rfl, fun j hj he => ?_⟩
    exact absurd (hnd.getElem_inj_iff.1 he) (Nat.ne_of_lt hj)

/-! ## The check -/

variable [Scalar α]

/-- Well-formedness depends on the shape of a graph only. -/
theorem WellFormed.of_shape_eq {g g' : Graph α} (hg : g.WellFormed) (h : g'.shape = g.shape) :
    g'.WellFormed := by
  have hids := ids_eq_of_shape_eq h
  have hlinks : g'.links = g.links := congrArg Prod.snd h
  refine ⟨hids ▸ hg.nodup_ids, ?_, ?_, ?_⟩ <;> rw [hlinks]
  · exact hids ▸ hg.source_at
  · exact hids ▸ hg.target_at
  · exact hg.isMagnitude_weight

/-- The ends of the links of a well-formed graph are positions of nodes. -/
theorem WellFormed.link_lt {g : Graph α} (hg : g.WellFormed) {l : Link α} (hl : l ∈ g.links) :
    l.sourceIndex < g.nodeCount ∧ l.targetIndex < g.nodeCount :=
  ⟨lt_nodeCount_of_getElem?_ids (hg.source_at l hl),
    lt_nodeCount_of_getElem?_ids (hg.target_at l hl)⟩

/-- The check looks at the shape of a graph only. -/
theorem check_of_shape_eq {g g' : Graph α} (h : g'.shape = g.shape) : g'.check = g.check := by
  have hlinks : g'.links = g.links := congrArg Prod.snd h
  have hlink (number : Nat) (l : Link α) : g'.checkLink number l = g.checkLink number l := by
    simp only [checkLink, checkEnd, position?_eq_idxOf?, ids_eq_of_shape_eq h]
  have hall (links : List (Link α)) (number : Nat) :
      g'.checkLinks number links = g.checkLinks number links := by
    induction links generalizing number with
    | nil => rfl
    | cons l rest ih => simp only [checkLinks, hlink, ih]
  rw [check, check, hlinks, hall]

/-- A link of a well-formed graph is in order, whatever number it is given. -/
theorem WellFormed.checkLink {g : Graph α} (hg : g.WellFormed) {l : Link α} (hl : l ∈ g.links)
    (number : Nat) : g.checkLink number l = .ok () := by
  have hs := (position?_eq_some_iff hg.nodup_ids).2 (hg.source_at l hl)
  have ht := (position?_eq_some_iff hg.nodup_ids).2 (hg.target_at l hl)
  have hw := hg.isMagnitude_weight l hl
  simp only [Graph.checkLink, checkEnd, checkWeight, hs, ht, hw, if_true]
  rfl

/-- Links that are in order whatever their number are in order one after the other. -/
theorem checkLinks_eq_ok {g : Graph α} {links : List (Link α)}
    (h : ∀ l ∈ links, ∀ number, g.checkLink number l = .ok ()) (number : Nat) :
    g.checkLinks number links = .ok () := by
  induction links generalizing number with
  | nil => rfl
  | cons l rest ih =>
    rw [checkLinks, h l List.mem_cons_self]
    exact ih (fun m hm => h m (List.mem_cons_of_mem l hm)) (number + 1)

/-- The check finds no fault in a well-formed graph. -/
theorem WellFormed.check {g : Graph α} (hg : g.WellFormed) : g.check = .ok () :=
  checkLinks_eq_ok (fun _ hl => hg.checkLink (Array.mem_toList_iff.1 hl)) 0

end Graph

end NeighborGraph
