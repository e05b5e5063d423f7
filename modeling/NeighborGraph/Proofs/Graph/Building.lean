import Mathlib.Data.List.Forall2
import NeighborGraph.Proofs.Except
import NeighborGraph.Proofs.Graph.WellFormed

/-!
# Graphs built step by step

A graph is built by requests (`BuildStep`), each of which may be refused. A refused request leaves
no trace: the graph is that of the accepted requests alone (`Graph.foldlM_accepted`), holds what
these ask for in their order (`Graph.Records`), and is well formed whatever is requested
(`Graph.wellFormed_build`).
-/

namespace NeighborGraph

variable {α : Type}

/-- A request to add something to a graph: a node, or a link between nodes given by their
identifiers or by their positions. -/
inductive BuildStep (α : Type) where
  | node (id : NodeId) (label : String)
  | link (source target : NodeId) (weight : α)
  | linkAt (source target : Nat) (weight : α)

/-- The number of the link that a fault is about, if it is about one. -/
def GraphFault.link? : GraphFault α → Option Nat
  | duplicateNode _ => none
  | unknownEnd link _ => some link
  | unknownPosition link _ _ => some link
  | badWeight link _ => some link

namespace BuildStep

/-- The request asks for a link. -/
def isLink : BuildStep α → Bool
  | node .. => false
  | link .. => true
  | linkAt .. => true

/-- The identifier and the caption of the node that the request asks for. -/
def node? : BuildStep α → Option (NodeId × String)
  | node id label => some (id, label)
  | link .. => none
  | linkAt .. => none

/-- The link is one that the request asks for. -/
def Makes : BuildStep α → Link α → Prop
  | node .., _ => False
  | link source target weight, l => l.source = source ∧ l.target = target ∧ l.weight = weight
  | linkAt source target weight, l =>
    l.sourceIndex = source ∧ l.targetIndex = target ∧ l.weight = weight

variable [Scalar α]

/-- The graph with what the request asks for, or why it is refused. -/
def apply (step : BuildStep α) (g : Graph α) : Except (GraphFault α) (Graph α) :=
  match step with
  | node id label => g.addNode id label
  | link source target weight => g.addLink source target weight
  | linkAt source target weight => g.addLinkAt source target weight

end BuildStep

namespace Graph

/-! ## The ends of a link -/

/-- An identifier resolves to the position of its node. -/
theorem resolve_eq_ok {g : Graph α} {id : NodeId} {i : Nat} :
    g.resolve id = .ok i ↔ g.position? id = some i := by
  unfold resolve
  split <;> simp_all

/-- A position resolves to the identifier of its node. -/
theorem resolveIndex_eq_ok {g : Graph α} {i : Nat} {id : NodeId} :
    g.resolveIndex i = .ok id ↔ g.ids[i]? = some id := by
  unfold resolveIndex
  split <;> simp_all

/-- An end that is not in the graph is reported with the next link. -/
theorem resolve_eq_error {g : Graph α} {id : NodeId} {fault : GraphFault α}
    (h : g.resolve id = .error fault) : fault.link? = some g.linkCount := by
  unfold resolve at h
  split at h <;> cases h
  rfl

/-- A position that no node has is reported with the next link. -/
theorem resolveIndex_eq_error {g : Graph α} {i : Nat} {fault : GraphFault α} :
    g.resolveIndex i = .error fault ↔
      g.nodeCount ≤ i ∧ fault = .unknownPosition g.linkCount i g.nodeCount := by
  unfold resolveIndex
  split
  · next node hnode =>
    have hi : i < g.nodeCount := (Array.getElem?_eq_some_iff.1 hnode).1
    simp only [reduceCtorEq, false_iff, not_and]
    omega
  · next hnone =>
    have hi : g.nodeCount ≤ i := Array.getElem?_eq_none_iff.1 hnone
    simp [hi, eq_comm]

variable [Scalar α]

/-- The graph after a request; a refused one changes nothing. -/
def extend (g : Graph α) (step : BuildStep α) : Graph α :=
  match step.apply g with
  | .ok g' => g'
  | .error _ => g

/-- The graph after a list of requests, beginning with the empty graph. -/
def build (steps : List (BuildStep α)) : Graph α := steps.foldl extend empty

/-- The requests that are accepted when they are made to a graph one after the other. -/
def accepted : Graph α → List (BuildStep α) → List (BuildStep α)
  | _, [] => []
  | g, step :: rest =>
    match step.apply g with
    | .ok g' => step :: accepted g' rest
    | .error _ => accepted g rest

/-! ## One request -/

/-- A weight is accepted if it is finite and not negative. -/
theorem checkWeight_eq_ok {link : Nat} {weight : α} :
    checkWeight link weight = .ok () ↔ Scalar.isMagnitude weight = true := by
  unfold checkWeight
  split <;> simp_all

/-- A weight that is refused is reported with the number of its link. -/
theorem checkWeight_eq_error {link : Nat} {weight : α} {fault : GraphFault α} :
    checkWeight link weight = .error fault ↔
      Scalar.isMagnitude weight = false ∧ fault = .badWeight link weight := by
  unfold checkWeight
  split
  · next hweight => simp [hweight]
  · next hweight => simp [hweight, eq_comm]

/-- All that an accepted request can do to a graph with distinct identifiers: it adds a node with a
new identifier, or a link between two nodes that are there. -/
theorem apply_eq_ok {g g' : Graph α} {step : BuildStep α} (hnd : g.ids.Nodup)
    (h : step.apply g = .ok g') :
    (∃ id label, step = .node id label ∧ id ∉ g.ids ∧
      g' = { g with nodes := g.nodes.push ⟨id, label, .origin, .origin, false⟩ }) ∨
    (∃ l : Link α, step.isLink = true ∧ step.node? = none ∧ step.Makes l ∧
      g.ids[l.sourceIndex]? = some l.source ∧ g.ids[l.targetIndex]? = some l.target ∧
      Scalar.isMagnitude l.weight = true ∧ g' = { g with links := g.links.push l }) := by
  cases step with
  | node id label =>
    simp only [BuildStep.apply, addNode] at h
    split at h
    · cases h
    · next hp =>
      have hid := position?_eq_none_iff.1 (Option.not_isSome_iff_eq_none.1 hp)
      exact .inl ⟨id, label, rfl, hid, (Except.ok.inj h).symm⟩
  | link source target weight =>
    obtain ⟨i, hi, h⟩ := Except.bind_eq_ok.1 h
    obtain ⟨j, hj, h⟩ := Except.bind_eq_ok.1 h
    obtain ⟨_, hw, h⟩ := Except.bind_eq_ok.1 h
    rw [resolve_eq_ok, position?_eq_some_iff hnd] at hi hj
    exact .inr ⟨⟨source, target, weight, i, j⟩, rfl, rfl, ⟨rfl, rfl, rfl⟩, hi, hj,
      checkWeight_eq_ok.1 hw, (Except.ok.inj h).symm⟩
  | linkAt i j weight =>
    obtain ⟨source, hi, h⟩ := Except.bind_eq_ok.1 h
    obtain ⟨target, hj, h⟩ := Except.bind_eq_ok.1 h
    obtain ⟨_, hw, h⟩ := Except.bind_eq_ok.1 h
    exact .inr ⟨⟨source, target, weight, i, j⟩, rfl, rfl, ⟨rfl, rfl, rfl⟩,
      resolveIndex_eq_ok.1 hi, resolveIndex_eq_ok.1 hj, checkWeight_eq_ok.1 hw,
      (Except.ok.inj h).symm⟩

/-- A refused link is reported under the number that it would have got, and a refused node under
none. -/
theorem link?_of_apply_eq_error {g : Graph α} {step : BuildStep α} {fault : GraphFault α}
    (h : step.apply g = .error fault) :
    fault.link? = if step.isLink then some g.linkCount else none := by
  cases step with
  | node id label =>
    simp only [BuildStep.apply, addNode] at h
    split at h <;> cases h
    rfl
  | link source target weight =>
    rcases Except.bind_eq_error.1 h with h | ⟨_, -, h⟩
    · exact resolve_eq_error h
    rcases Except.bind_eq_error.1 h with h | ⟨_, -, h⟩
    · exact resolve_eq_error h
    rcases Except.bind_eq_error.1 h with h | ⟨_, -, h⟩
    · cases (checkWeight_eq_error.1 h).2
      rfl
    · cases h
  | linkAt i j weight =>
    rcases Except.bind_eq_error.1 h with h | ⟨_, -, h⟩
    · cases (resolveIndex_eq_error.1 h).2
      rfl
    rcases Except.bind_eq_error.1 h with h | ⟨_, -, h⟩
    · cases (resolveIndex_eq_error.1 h).2
      rfl
    rcases Except.bind_eq_error.1 h with h | ⟨_, -, h⟩
    · cases (checkWeight_eq_error.1 h).2
      rfl
    · cases h

/-- A node with a new identifier is accepted. -/
theorem addNode_of_not_mem {g : Graph α} {id : NodeId} (h : id ∉ g.ids) (label : String) :
    g.addNode id label =
      .ok { g with nodes := g.nodes.push ⟨id, label, .origin, .origin, false⟩ } := by
  rw [addNode, position?_eq_none_iff.2 h]
  rfl

/-- A node with an identifier that is there is refused. -/
theorem addNode_of_mem {g : Graph α} {id : NodeId} (h : id ∈ g.ids) (label : String) :
    g.addNode id label = .error (.duplicateNode id) := by
  obtain ⟨i, hi⟩ := Option.ne_none_iff_exists'.1 (mt position?_eq_none_iff.1 (not_not_intro h))
  rw [addNode, hi]
  rfl

/-! ## A list of requests -/

/-- A request that is accepted has its effect. -/
theorem extend_of_ok {g g' : Graph α} {step : BuildStep α} (h : step.apply g = .ok g') :
    g.extend step = g' := by
  rw [extend, h]

/-- A request that is refused has none. -/
theorem extend_of_error {g : Graph α} {step : BuildStep α} {fault : GraphFault α}
    (h : step.apply g = .error fault) : g.extend step = g := by
  rw [extend, h]

/-- The accepted requests alone, made one after the other, are all accepted again, and they lead to
the same graph as all of the requests. -/
theorem foldlM_accepted (g : Graph α) (steps : List (BuildStep α)) :
    (accepted g steps).foldlM (fun g step => step.apply g) g = .ok (steps.foldl extend g) := by
  induction steps generalizing g with
  | nil => rfl
  | cons step rest ih =>
    cases h : step.apply g with
    | ok g' =>
      rw [List.foldl_cons, extend_of_ok h, accepted, h]
      exact Except.bind_eq_ok.2 ⟨g', h, ih g'⟩
    | error fault =>
      rw [List.foldl_cons, extend_of_error h, accepted, h]
      exact ih g

/-- Requests that are all accepted lead to the graph of the list. -/
theorem foldl_extend_of_foldlM {steps : List (BuildStep α)} {g g' : Graph α}
    (h : steps.foldlM (fun g step => step.apply g) g = .ok g') : steps.foldl extend g = g' := by
  induction steps generalizing g with
  | nil => exact Except.ok.inj h
  | cons step rest ih =>
    rw [List.foldlM_cons] at h
    obtain ⟨g₁, h₁, h⟩ := Except.bind_eq_ok.1 h
    rw [List.foldl_cons, extend_of_ok h₁]
    exact ih h

/-- What an accepted request keeps of a graph with distinct identifiers, every request of a list
keeps. -/
theorem foldl_extend_induction {P : Graph α → Prop}
    (hstep : ∀ {g g' : Graph α} {step : BuildStep α}, P g → step.apply g = .ok g' → P g')
    {g : Graph α} (hg : P g) (steps : List (BuildStep α)) : P (steps.foldl extend g) := by
  induction steps generalizing g with
  | nil => exact hg
  | cons step rest ih =>
    cases h : step.apply g with
    | ok g' =>
      rw [List.foldl_cons, extend_of_ok h]
      exact ih (hstep hg h)
    | error fault =>
      rw [List.foldl_cons, extend_of_error h]
      exact ih hg

/-! ## Well-formedness -/

/-- The empty graph is well formed. -/
theorem wellFormed_empty : (empty : Graph α).WellFormed where
  nodup_ids := List.nodup_nil
  source_at := by simp [empty]
  target_at := by simp [empty]
  isMagnitude_weight := by simp [empty]

/-- A node with a new identifier keeps a graph well formed: the positions that links store do not
move. -/
theorem WellFormed.pushNode {g : Graph α} (hg : g.WellFormed) {node : Node α}
    (hid : node.id ∉ g.ids) : WellFormed { g with nodes := g.nodes.push node } := by
  have hids : ids { g with nodes := g.nodes.push node } = g.ids ++ [node.id] := by simp [ids]
  have hkeep : ∀ {i : Nat} {id : NodeId}, g.ids[i]? = some id →
      (g.ids ++ [node.id])[i]? = some id := by
    intro i id h
    rw [List.getElem?_append_left (List.getElem?_eq_some_iff.1 h).1]
    exact h
  refine ⟨?_, ?_, ?_, hg.isMagnitude_weight⟩ <;> rw [hids]
  · rw [List.nodup_append]
    refine ⟨hg.nodup_ids, List.nodup_singleton _, fun id hmem id' hid' he => hid ?_⟩
    rwa [← List.mem_singleton.1 hid', ← he]
  · exact fun l hl => hkeep (hg.source_at l hl)
  · exact fun l hl => hkeep (hg.target_at l hl)

/-- A link between nodes of the graph keeps it well formed. -/
theorem WellFormed.pushLink {g : Graph α} (hg : g.WellFormed) {l : Link α}
    (hs : g.ids[l.sourceIndex]? = some l.source) (ht : g.ids[l.targetIndex]? = some l.target)
    (hw : Scalar.isMagnitude l.weight = true) :
    WellFormed { g with links := g.links.push l } := by
  refine ⟨hg.nodup_ids, ?_, ?_, ?_⟩ <;> intro m hm <;>
    rcases Array.mem_push.1 hm with hm | rfl
  · exact hg.source_at m hm
  · exact hs
  · exact hg.target_at m hm
  · exact ht
  · exact hg.isMagnitude_weight m hm
  · exact hw

/-- An accepted request keeps a graph well formed. -/
theorem WellFormed.apply {g g' : Graph α} {step : BuildStep α} (hg : g.WellFormed)
    (h : step.apply g = .ok g') : g'.WellFormed := by
  obtain ⟨id, label, -, hid, rfl⟩ | ⟨l, -, -, -, hs, ht, hw, rfl⟩ := apply_eq_ok hg.nodup_ids h
  · exact hg.pushNode hid
  · exact hg.pushLink hs ht hw

/-- A graph is well formed whatever has been requested. -/
theorem wellFormed_build (steps : List (BuildStep α)) : (build steps).WellFormed :=
  foldl_extend_induction WellFormed.apply wellFormed_empty steps

/-! ## Contents -/

/-- The graph holds what the requests ask for, in their order, and nothing else; its nodes rest at
the origin under no outside control. -/
structure Records (steps : List (BuildStep α)) (g : Graph α) : Prop where
  nodes : g.shape.1 = steps.filterMap BuildStep.node?
  links : List.Forall₂ BuildStep.Makes (steps.filter BuildStep.isLink) g.links.toList
  atRest : ∀ node ∈ g.nodes, node.position = .origin ∧ node.velocity = .origin ∧ node.pinned = false

/-- The empty graph records that nothing was asked for. -/
theorem records_empty : Records [] (empty : Graph α) where
  nodes := rfl
  links := .nil
  atRest := by simp [empty]

/-- A graph that holds a list of requests holds one more after it has been accepted. -/
theorem Records.apply {kept : List (BuildStep α)} {g g' : Graph α} {step : BuildStep α}
    (hg : Records kept g) (hnd : g.ids.Nodup) (h : step.apply g = .ok g') :
    Records (kept ++ [step]) g' := by
  obtain ⟨id, label, rfl, -, rfl⟩ | ⟨l, hlink, hnode, hmakes, -, -, -, rfl⟩ := apply_eq_ok hnd h
  · refine ⟨?_, ?_, fun node hn => ?_⟩
    · rw [List.filterMap_append, ← hg.nodes]
      simp [shape, BuildStep.node?]
    · simpa [BuildStep.isLink] using hg.links
    · rcases Array.mem_push.1 hn with hn | rfl
      · exact hg.atRest node hn
      · exact ⟨rfl, rfl, rfl⟩
  · refine ⟨?_, ?_, hg.atRest⟩
    · rw [List.filterMap_append, ← hg.nodes]
      simp [shape, hnode]
    · simpa [hlink] using List.rel_append hg.links (.cons hmakes .nil)

/-- A graph holds exactly what the accepted requests ask for. -/
theorem records_build (steps : List (BuildStep α)) :
    Records (accepted empty steps) (build steps) := by
  suffices h : ∀ (kept : List (BuildStep α)) (g : Graph α), g.WellFormed → Records kept g →
      Records (kept ++ accepted g steps) (steps.foldl extend g) from
    h [] empty wellFormed_empty records_empty
  induction steps with
  | nil => exact fun kept g _ hg => by simpa [accepted] using hg
  | cons step rest ih =>
    intro kept g hwf hg
    cases h : step.apply g with
    | ok g' =>
      rw [List.foldl_cons, extend_of_ok h, accepted, h]
      simpa using ih (kept ++ [step]) g' (hwf.apply h) (hg.apply hwf.nodup_ids h)
    | error fault =>
      rw [List.foldl_cons, extend_of_error h, accepted, h]
      exact ih kept g hwf hg

/-- A graph that has been built, from whatever requests. -/
def Built (g : Graph α) : Prop := ∃ steps, g = build steps

/-- A graph that has been built is well formed. -/
theorem Built.wellFormed {g : Graph α} (hg : g.Built) : g.WellFormed := by
  obtain ⟨steps, rfl⟩ := hg
  exact wellFormed_build steps

/-- No node of a graph is pinned when it has just been built. -/
theorem Built.pinned_eq {g : Graph α} (hg : g.Built) : ∀ node ∈ g.nodes, node.pinned = false := by
  obtain ⟨steps, rfl⟩ := hg
  intro node hn
  exact ((records_build steps).atRest node hn).2.2

end Graph

end NeighborGraph
