import NeighborGraph.Document.Load
import NeighborGraph.Proofs.Graph.Building

/-!
# Documents as requests

A document asks for its nodes and then for its links. Its graph is there if all of these requests
are accepted (`Document.toGraph_eq`), so that every graph that is read from a text has been built
(`Graph.built_of_read`), and no two documents with different links have the same graph
(`Document.links_of_toGraph`).
-/

namespace NeighborGraph

namespace Document

/-- What a document asks for, in order. -/
def requests (d : Document) : List (BuildStep Float) :=
  d.nodes.map (fun node => .node ⟨node.identifier⟩ node.name) ++
    d.links.map fun link => .linkAt link.source link.target link.value

/-- The graph of a document is what comes of its requests. -/
theorem toGraph_eq (d : Document) :
    d.toGraph = d.requests.foldlM (fun g step => step.apply g) Graph.empty := by
  rw [requests, List.foldlM_append, List.foldlM_map]
  simp only [List.foldlM_map]
  rfl

/-- The graph of a document has been built by requests. -/
theorem built_of_toGraph {d : Document} {g : Graph Float} (h : d.toGraph = .ok g) : g.Built := by
  rw [toGraph_eq] at h
  exact ⟨d.requests, (Graph.foldl_extend_of_foldlM h).symm⟩

/-! ## Links -/

/-- Nodes that are added do not touch the links. -/
theorem links_of_foldlM_addNode {nodes : List DocumentNode} {g g' : Graph Float}
    (h : nodes.foldlM (fun g node => g.addNode ⟨node.identifier⟩ node.name) g = .ok g') :
    g'.links = g.links := by
  induction nodes generalizing g with
  | nil =>
    cases h
    rfl
  | cons node rest ih =>
    obtain ⟨g₁, hadd, h⟩ := Except.bind_eq_ok.1 h
    rw [ih h]
    unfold Graph.addNode at hadd
    dsimp only at hadd
    split at hadd <;> cases hadd
    rfl

/-- A link as a document says it. -/
def ofLink (link : Link Float) : DocumentLink := ⟨link.sourceIndex, link.targetIndex, link.weight⟩

/-- Links that are added follow those that are there, each as the document has it. -/
theorem links_of_foldlM_addLinkAt {links : List DocumentLink} {g g' : Graph Float}
    (h : links.foldlM (fun g link => g.addLinkAt link.source link.target link.value) g = .ok g') :
    g'.links.toList.map ofLink = g.links.toList.map ofLink ++ links := by
  induction links generalizing g with
  | nil =>
    cases h
    rw [List.append_nil]
  | cons link rest ih =>
    obtain ⟨g₁, hadd, h⟩ := Except.bind_eq_ok.1 h
    obtain ⟨source, -, hadd⟩ := Except.bind_eq_ok.1 hadd
    obtain ⟨target, -, hadd⟩ := Except.bind_eq_ok.1 hadd
    obtain ⟨_, -, hadd⟩ := Except.bind_eq_ok.1 hadd
    cases hadd
    rw [ih h, Array.toList_push, List.map_append, List.append_assoc]
    rfl

/-- The links of a document can be read off its graph. -/
theorem links_of_toGraph {d : Document} {g : Graph Float} (h : d.toGraph = .ok g) :
    g.links.toList.map ofLink = d.links := by
  obtain ⟨g₁, hnodes, hlinks⟩ := Except.bind_eq_ok.1 h
  rw [links_of_foldlM_addLinkAt hlinks, links_of_foldlM_addNode hnodes]
  rfl

end Document

/-- Every graph that is read from a text has been built. -/
theorem Graph.built_of_read {text : String} {g : Graph Float} (h : Graph.read text = .ok g) :
    g.Built := by
  obtain ⟨document, -, h⟩ := Except.bind_eq_ok.1 h
  exact Document.built_of_toGraph (Except.mapError_eq_ok.1 h)

end NeighborGraph
