import NeighborGraph.Proofs.Graph.Building
import NeighborGraph.Proofs.Scene.Pointer
import NeighborGraph.Proofs.Session.Operation

/-!
# The graph of a session

A graph is well formed whatever has been requested of it, and a session on it changes the states of
its nodes only (`Session.invariant_shape`): names and links stay as they were built, and all forces
refer to nodes that are there. `Session.built_graph_throughout` follows a graph from the first
request to the last operation of a session.
-/

namespace NeighborGraph

namespace Session

variable {α : Type} [Scalar α]

/-- No operation changes the names of the nodes, their order or the links. -/
theorem invariant_shape (S : List (NodeId × String) × Array (Link α)) :
    Invariant fun s : Session α => s.scene.simulation.graph.shape = S where
  advance _ h := (Simulation.shape_step _ _).trans h
  close h := h
  press point h := (Simulation.stable_shape S).press point h
  moveTo point h := (Simulation.stable_shape S).moveTo point h
  release h := (Simulation.stable_shape S).release h

/-- A session begins with the shape of the graph that it is started on. -/
theorem shape_of_start {config : Config α} {spareSeed : UInt64} {graph : Graph α} {s : Session α}
    (h : start config spareSeed graph = .ok s) : s.scene.simulation.graph.shape = graph.shape := by
  obtain ⟨-, simulation, hscatter, rfl⟩ := start_eq_ok h
  obtain ⟨-, -, hw⟩ := Simulation.scatter_eq_ok hscatter
  exact hw.shape_eq Simulation.keepsName_placedAt

/-- Whatever is requested of a graph: it is the graph of the accepted requests alone and holds what
they ask for in their order, faults carry the number of the next link, and the graph is well formed.
It passes its check, a session on it starts unless the configuration is refused, and throughout the
session it keeps its shape, and with it all of this, so that every force refers to nodes that are
there. -/
theorem built_graph_throughout (steps : List (BuildStep α)) :
    let g := Graph.build steps
    let accepted := Graph.accepted .empty steps
    (accepted.foldlM (fun g step => step.apply g) .empty = .ok g ∧ Graph.build accepted = g) ∧
    (∀ before step after fault, steps = before ++ step :: after →
      step.apply (Graph.build before) = .error fault →
      fault.link? = if step.isLink
        then some ((Graph.accepted .empty before).filter BuildStep.isLink).length else none) ∧
    Graph.Records accepted g ∧ g.WellFormed ∧
    (∀ l ∈ g.links, l.sourceIndex < g.nodeCount ∧ l.targetIndex < g.nodeCount) ∧
    g.check = .ok () ∧
    ∀ (config : Config α) (spareSeed : UInt64),
      (∀ fault, start config spareSeed g = .error fault →
        ∃ setting, config.check = .error setting ∧ fault = .config setting) ∧
      ∀ s₀, start config spareSeed g = .ok s₀ → ∀ ops,
        let g' := (s₀.after ops).scene.simulation.graph
        g'.shape = g.shape ∧ g'.WellFormed ∧ g'.check = .ok () ∧
        ∀ p center, (g'.netForces p center).size = g'.nodeCount ∧
          ∀ m ∈ g'.mutualForces p, m.first < g'.nodeCount ∧ m.second < g'.nodeCount := by
  intro g accepted
  have hg : g.WellFormed := Graph.wellFormed_build steps
  have hreplay := Graph.foldlM_accepted .empty steps
  refine ⟨⟨hreplay, Graph.foldl_extend_of_foldlM hreplay⟩, ?_, Graph.records_build steps, hg,
    fun l hl => hg.link_lt hl, hg.check, fun config spareSeed => ⟨fun fault h => ?_, ?_⟩⟩
  · rintro before step after fault - h
    rw [Graph.link?_of_apply_eq_error h, (Graph.records_build before).links.length_eq]
    rfl
  · obtain ⟨-, s, hs⟩ | ⟨setting, hc, hs⟩ := start_of_check hg.check config spareSeed
    · rw [hs] at h
      cases h
    · rw [hs] at h
      cases h
      exact ⟨setting, hc, rfl⟩
  · intro s₀ h ops
    have hshape := (invariant_shape g.shape).after (shape_of_start h) ops
    have hg' := hg.of_shape_eq hshape
    exact ⟨hshape, hg', hg'.check, fun p center =>
      ⟨Graph.size_netForces _ p center, hg'.mutualForces_lt p⟩⟩

/-- Two nodes and a link, with a link to a node that is not there yet, one to a position that no
node has, and a node that is there already: the graph has two nodes and one link throughout. -/
theorem built_graph_throughout_twoNodes :
    let steps : List (BuildStep Float) := [.node ⟨"a"⟩ "A", .link ⟨"a"⟩ ⟨"b"⟩ 1, .node ⟨"b"⟩ "B",
      .link ⟨"a"⟩ ⟨"b"⟩ 4, .linkAt 0 7 1, .node ⟨"a"⟩ "again"]
    ∃ s₀, start .default 0 (Graph.build steps) = .ok s₀ ∧
      ∀ ops, (s₀.after ops).scene.simulation.graph.ids = [⟨"a"⟩, ⟨"b"⟩] ∧
        (s₀.after ops).scene.simulation.graph.linkCount = 1 ∧
        (s₀.after ops).scene.simulation.graph.check = .ok () := by
  intro steps
  obtain ⟨-, -, -, -, -, -, hstart⟩ := built_graph_throughout steps
  obtain ⟨hfails, hkeeps⟩ := hstart .default 0
  cases h : start .default 0 (Graph.build steps) with
  | error fault =>
    obtain ⟨setting, hc, -⟩ := hfails fault h
    cases hc
  | ok s₀ =>
    refine ⟨s₀, rfl, fun ops => ?_⟩
    obtain ⟨hshape, -, hcheck, -⟩ := hkeeps s₀ h ops
    have hids : (Graph.build steps).ids = [⟨"a"⟩, ⟨"b"⟩] := by decide +kernel
    have hlinks : (Graph.build steps).linkCount = 1 := by decide +kernel
    refine ⟨(Graph.ids_eq_of_shape_eq hshape).trans hids, ?_, hcheck⟩
    rw [← hlinks]
    exact congrArg (·.2.size) hshape

end Session

end NeighborGraph
