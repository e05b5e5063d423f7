import NeighborGraph.Proofs.Document.Requests
import NeighborGraph.Proofs.Scalar.Magnitudes

/-!
# What a document is refused for

A document has a graph exactly if its identifiers are distinct and all of its links are in order,
and the graph is then the one that it describes. Else it is refused for its first offence: a node
that repeats an identifier comes before every link, and of a link the source is looked at before
the target and the target before the value (`Document.toGraph_decided`). Where identifiers are
distinct and links refer to nodes, only the values of the links can stand in the way
(`Document.Orderly.exists_toGraph`, `Document.Orderly.toGraph_eq_error`).
-/

namespace NeighborGraph

/-- A link that can be added to a graph with so many nodes. -/
structure DocumentLink.Accepted (nodeCount : Nat) (link : DocumentLink) : Prop where
  source_lt : link.source < nodeCount
  target_lt : link.target < nodeCount
  isFinite_value : link.value.isFinite = true
  zero_le_value : 0 ≤ link.value

/-- The first thing that is wrong with a link at a position of the list, if it is to be added to a
graph with so many nodes. -/
inductive DocumentLink.Offends (nodeCount position : Nat) (link : DocumentLink) :
    GraphFault Float → Prop
  | source (hsource : nodeCount ≤ link.source) :
    Offends nodeCount position link (.unknownPosition position link.source nodeCount)
  | target (hsource : link.source < nodeCount) (htarget : nodeCount ≤ link.target) :
    Offends nodeCount position link (.unknownPosition position link.target nodeCount)
  | value (hsource : link.source < nodeCount) (htarget : link.target < nodeCount)
    (hvalue : ¬(link.value.isFinite = true ∧ 0 ≤ link.value)) :
    Offends nodeCount position link (.badWeight position link.value)

namespace Document

/-- The first thing that is wrong with a document. -/
inductive FirstOffence (d : Document) : GraphFault Float → Prop
  /-- A node has the identifier of one before it, and these have distinct ones. -/
  | node {before after : List DocumentNode} {node : DocumentNode}
    (hnodes : d.nodes = before ++ node :: after)
    (hbefore : (before.map DocumentNode.identifier).Nodup)
    (hnode : node.identifier ∈ before.map DocumentNode.identifier) :
    FirstOffence d (.duplicateNode ⟨node.identifier⟩)
  /-- All identifiers are distinct, and a link offends after links that are in order. -/
  | link {before after : List DocumentLink} {link : DocumentLink} {fault : GraphFault Float}
    (hnodes : (d.nodes.map DocumentNode.identifier).Nodup)
    (hlinks : d.links = before ++ link :: after)
    (hbefore : ∀ l ∈ before, l.Accepted d.nodes.length)
    (hlink : link.Offends d.nodes.length before.length fault) :
    FirstOffence d fault

/-- A graph has the nodes and the links of a document, each in its place. -/
structure Describes (d : Document) (g : Graph Float) : Prop where
  nodeCount_eq : g.nodeCount = d.nodes.length
  linkCount_eq : g.linkCount = d.links.length
  node : ∀ (i : Nat) (node : DocumentNode), d.nodes[i]? = some node →
    ∃ n, g.nodes[i]? = some n ∧ n.id = ⟨node.identifier⟩ ∧ n.label = node.name
  link : ∀ (k : Nat) (link : DocumentLink), d.links[k]? = some link →
    ∃ l, g.links[k]? = some l ∧ l.sourceIndex = link.source ∧ l.targetIndex = link.target ∧
      l.weight = link.value ∧ g.ids[link.source]? = some l.source ∧
      g.ids[link.target]? = some l.target

end Document

/-! ## One node or link -/

namespace Graph

variable {g g' : Graph Float} {fault : GraphFault Float}

/-- A node is added if its identifier is new. -/
theorem addNode_eq_ok {id : NodeId} {label : String} :
    g.addNode id label = .ok g' ↔ id ∉ g.ids ∧
      g' = { g with nodes := g.nodes.push ⟨id, label, .origin, .origin, false⟩ } := by
  by_cases hid : id ∈ g.ids
  · simp [addNode_of_mem hid, hid]
  · simp [addNode_of_not_mem hid, hid, eq_comm]

/-- A node is refused if its identifier is there. -/
theorem addNode_eq_error {id : NodeId} {label : String} :
    g.addNode id label = .error fault ↔ id ∈ g.ids ∧ fault = .duplicateNode id := by
  by_cases hid : id ∈ g.ids
  · simp [addNode_of_mem hid, hid, eq_comm]
  · simp [addNode_of_not_mem hid, hid]

/-- A position is that of a node exactly if it is below their number. -/
theorem exists_getElem?_ids {i : Nat} : (∃ id, g.ids[i]? = some id) ↔ i < g.nodeCount := by
  rw [← Option.ne_none_iff_exists', Ne, List.getElem?_eq_none_iff, length_ids, not_le]

/-- A link is added if it is in order, and it is then the last one. -/
theorem addLinkAt_eq_ok {link : DocumentLink} :
    g.addLinkAt link.source link.target link.value = .ok g' ↔
      link.Accepted g.nodeCount ∧ ∃ source target, g.ids[link.source]? = some source ∧
        g.ids[link.target]? = some target ∧
        g' = { g with
          links := g.links.push ⟨source, target, link.value, link.source, link.target⟩ } := by
  unfold addLinkAt
  simp only [Except.bind_eq_ok, resolveIndex_eq_ok]
  constructor
  · rintro ⟨source, hsource, target, htarget, ⟨⟩, hweight, h⟩
    have hvalue := (Double.isMagnitude_iff _).1 (checkWeight_eq_ok.1 hweight)
    exact ⟨⟨lt_nodeCount_of_getElem?_ids hsource, lt_nodeCount_of_getElem?_ids htarget,
      hvalue.1, hvalue.2⟩, source, target, hsource, htarget, (Except.ok.inj h).symm⟩
  · rintro ⟨haccepted, source, target, hsource, htarget, rfl⟩
    have hvalue := (Double.isMagnitude_iff _).2 ⟨haccepted.isFinite_value, haccepted.zero_le_value⟩
    exact ⟨source, hsource, target, htarget, (), checkWeight_eq_ok.2 hvalue, rfl⟩

/-- A link is refused for the first thing that is wrong with it. -/
theorem addLinkAt_eq_error {link : DocumentLink} :
    g.addLinkAt link.source link.target link.value = .error fault ↔
      link.Offends g.nodeCount g.linkCount fault := by
  have hvalue : Scalar.isMagnitude link.value = false ↔
      ¬(link.value.isFinite = true ∧ 0 ≤ link.value) := by
    rw [← Double.isMagnitude_iff, Bool.not_eq_true]
  unfold addLinkAt
  simp only [Except.bind_eq_error, resolveIndex_eq_error, resolveIndex_eq_ok,
    checkWeight_eq_error, hvalue]
  constructor
  · rintro (⟨hsource, rfl⟩ | ⟨source, hsource, ⟨htarget, rfl⟩ | ⟨target, htarget, h⟩⟩)
    · exact .source hsource
    · exact .target (exists_getElem?_ids.1 ⟨source, hsource⟩) htarget
    · rcases h with ⟨hvalue, rfl⟩ | ⟨_, -, ⟨⟩⟩
      exact .value (exists_getElem?_ids.1 ⟨source, hsource⟩)
        (exists_getElem?_ids.1 ⟨target, htarget⟩) hvalue
  · rintro (hsource | ⟨hsource, htarget⟩ | ⟨hsource, htarget, hvalue⟩)
    · exact .inl ⟨hsource, rfl⟩
    · obtain ⟨source, hsource⟩ := exists_getElem?_ids.2 hsource
      exact .inr ⟨source, hsource, .inl ⟨htarget, rfl⟩⟩
    · obtain ⟨source, hsource⟩ := exists_getElem?_ids.2 hsource
      obtain ⟨target, htarget⟩ := exists_getElem?_ids.2 htarget
      exact .inr ⟨source, hsource, .inr ⟨target, htarget, .inl ⟨hvalue, rfl⟩⟩⟩

end Graph

/-! ## All nodes, then all links -/

/-- The node that a graph begins with for a node of a document: it rests at the origin. -/
def DocumentNode.placed (node : DocumentNode) : Node Float :=
  ⟨⟨node.identifier⟩, node.name, .origin, .origin, false⟩

namespace Document

variable {g g' : Graph Float} {fault : GraphFault Float}

/-- The graph of some nodes without any link. -/
def unlinked (nodes : List DocumentNode) : Graph Float :=
  ⟨(nodes.map DocumentNode.placed).toArray, #[]⟩

/-- The identifiers in a graph of nodes are those of the nodes. -/
theorem mem_ids_unlinked {nodes : List DocumentNode} {id : String} :
    NodeId.mk id ∈ (unlinked nodes).ids ↔ id ∈ nodes.map DocumentNode.identifier := by
  simp [Graph.ids, unlinked, DocumentNode.placed]

@[simp] theorem nodeCount_unlinked (nodes : List DocumentNode) :
    (unlinked nodes).nodeCount = nodes.length := by
  simp [unlinked, Graph.nodeCount]

@[simp] theorem linkCount_unlinked (nodes : List DocumentNode) :
    (unlinked nodes).linkCount = 0 := rfl

/-- The nodes of a document are accepted if their identifiers are distinct. -/
theorem foldlM_nodes_eq_ok {nodes : List DocumentNode} :
    nodes.foldlM (fun g node => g.addNode ⟨node.identifier⟩ node.name) Graph.empty = .ok g ↔
      (nodes.map DocumentNode.identifier).Nodup ∧ g = unlinked nodes := by
  -- from the end: what the last node is compared with is the graph of all before it
  induction nodes using List.reverseRecOn generalizing g with
  | nil => simp [Graph.empty, unlinked, pure, Except.pure, eq_comm]
  | append_singleton nodes node ih =>
    simp only [List.foldlM_append, List.foldlM_cons, List.foldlM_nil, bind_pure,
      Except.bind_eq_ok, ih, Graph.addNode_eq_ok]
    rw [List.map_append, List.map_singleton, ← List.concat_eq_append, List.nodup_concat]
    constructor
    · rintro ⟨_, ⟨hnodup, rfl⟩, hnode, rfl⟩
      exact ⟨⟨mem_ids_unlinked.not.1 hnode, hnodup⟩, by simp [unlinked, DocumentNode.placed]⟩
    · rintro ⟨⟨hnode, hnodup⟩, rfl⟩
      exact ⟨_, ⟨hnodup, rfl⟩, mem_ids_unlinked.not.2 hnode,
        by simp [unlinked, DocumentNode.placed]⟩

/-- The nodes of a document are refused for the first one that repeats an identifier. -/
theorem foldlM_nodes_eq_error {nodes : List DocumentNode} :
    nodes.foldlM (fun g node => g.addNode ⟨node.identifier⟩ node.name) Graph.empty =
      .error fault ↔
    ∃ before node after, nodes = before ++ node :: after ∧
      (before.map DocumentNode.identifier).Nodup ∧
      node.identifier ∈ before.map DocumentNode.identifier ∧
      fault = .duplicateNode ⟨node.identifier⟩ := by
  simp only [Except.foldlM_eq_error, foldlM_nodes_eq_ok, Graph.addNode_eq_error]
  constructor
  · rintro ⟨before, node, after, _, hnodes, ⟨hbefore, rfl⟩, hnode, hfault⟩
    exact ⟨before, node, after, hnodes, hbefore, mem_ids_unlinked.1 hnode, hfault⟩
  · rintro ⟨before, node, after, hnodes, hbefore, hnode, hfault⟩
    exact ⟨before, node, after, _, hnodes, ⟨hbefore, rfl⟩, mem_ids_unlinked.2 hnode, hfault⟩

/-- Links that are added leave the nodes alone and are counted. -/
theorem nodes_of_foldlM_links {links : List DocumentLink}
    (h : links.foldlM (fun g link => g.addLinkAt link.source link.target link.value) g = .ok g') :
    g'.nodes = g.nodes ∧ g'.linkCount = g.linkCount + links.length := by
  induction links using List.reverseRecOn generalizing g' with
  | nil =>
    cases h
    exact ⟨rfl, rfl⟩
  | append_singleton links link ih =>
    simp only [List.foldlM_append, List.foldlM_cons, List.foldlM_nil, bind_pure,
      Except.bind_eq_ok, Graph.addLinkAt_eq_ok] at h
    obtain ⟨g₁, hlinks, -, _, _, -, -, rfl⟩ := h
    obtain ⟨hnodes, hcount⟩ := ih hlinks
    refine ⟨hnodes, ?_⟩
    rw [Graph.linkCount, Array.size_push, List.length_append, List.length_singleton]
    simp only [Graph.linkCount] at hcount ⊢
    omega

/-- Links are accepted if each of them is in order. -/
theorem exists_foldlM_links_iff {links : List DocumentLink} :
    (∃ g', links.foldlM (fun g link => g.addLinkAt link.source link.target link.value) g =
      .ok g') ↔ ∀ link ∈ links, link.Accepted g.nodeCount := by
  induction links using List.reverseRecOn with
  | nil => exact ⟨fun _ => List.forall_mem_nil _, fun _ => ⟨g, rfl⟩⟩
  | append_singleton links link ih =>
    simp only [List.foldlM_append, List.foldlM_cons, List.foldlM_nil, bind_pure,
      Except.bind_eq_ok, List.forall_mem_append, List.forall_mem_singleton, ← ih]
    constructor
    · rintro ⟨g', g₁, hlinks, hlink⟩
      have haccepted := (Graph.addLinkAt_eq_ok.1 hlink).1
      rw [Graph.nodeCount, (nodes_of_foldlM_links hlinks).1] at haccepted
      exact ⟨⟨g₁, hlinks⟩, haccepted⟩
    · rintro ⟨⟨g₁, hlinks⟩, haccepted⟩
      rw [Graph.nodeCount, ← (nodes_of_foldlM_links hlinks).1] at haccepted
      obtain ⟨source, hsource⟩ := Graph.exists_getElem?_ids.2 haccepted.source_lt
      obtain ⟨target, htarget⟩ := Graph.exists_getElem?_ids.2 haccepted.target_lt
      exact ⟨_, g₁, hlinks,
        Graph.addLinkAt_eq_ok.2 ⟨haccepted, source, target, hsource, htarget, rfl⟩⟩

/-- Links are refused for the first one that offends. -/
theorem foldlM_links_eq_error {links : List DocumentLink} :
    links.foldlM (fun g link => g.addLinkAt link.source link.target link.value) g =
      .error fault ↔
    ∃ before link after, links = before ++ link :: after ∧
      (∀ l ∈ before, l.Accepted g.nodeCount) ∧
      link.Offends g.nodeCount (g.linkCount + before.length) fault := by
  simp only [Except.foldlM_eq_error, Graph.addLinkAt_eq_error]
  constructor
  · rintro ⟨before, link, after, g₁, hlinks, hbefore, hlink⟩
    obtain ⟨hnodes, hcount⟩ := nodes_of_foldlM_links hbefore
    rw [Graph.nodeCount, hnodes, hcount] at hlink
    exact ⟨before, link, after, hlinks, exists_foldlM_links_iff.1 ⟨g₁, hbefore⟩, hlink⟩
  · rintro ⟨before, link, after, hlinks, hbefore, hlink⟩
    obtain ⟨g₁, hbefore⟩ := exists_foldlM_links_iff.2 hbefore
    obtain ⟨hnodes, hcount⟩ := nodes_of_foldlM_links hbefore
    rw [Graph.nodeCount, ← hnodes, ← hcount] at hlink
    exact ⟨before, link, after, g₁, hlinks, hbefore, hlink⟩

/-! ## The whole document -/

variable {d : Document}

/-- A document has a graph if its identifiers are distinct and its links are in order. -/
theorem exists_toGraph_iff :
    (∃ g, d.toGraph = .ok g) ↔ (d.nodes.map DocumentNode.identifier).Nodup ∧
      ∀ link ∈ d.links, link.Accepted d.nodes.length := by
  rw [← nodeCount_unlinked d.nodes, ← exists_foldlM_links_iff]
  simp only [toGraph, Except.bind_eq_ok, foldlM_nodes_eq_ok]
  constructor
  · rintro ⟨g, _, ⟨hnodes, rfl⟩, hlinks⟩
    exact ⟨hnodes, g, hlinks⟩
  · rintro ⟨hnodes, g, hlinks⟩
    exact ⟨g, _, ⟨hnodes, rfl⟩, hlinks⟩

/-- A document is refused for the first thing that is wrong with it. -/
theorem toGraph_eq_error_iff : d.toGraph = .error fault ↔ d.FirstOffence fault := by
  simp only [toGraph, Except.bind_eq_error, foldlM_nodes_eq_ok, foldlM_nodes_eq_error,
    foldlM_links_eq_error]
  constructor
  · rintro (⟨before, node, after, hnodes, hbefore, hnode, rfl⟩ |
      ⟨_, ⟨hnodes, rfl⟩, before, link, after, hlinks, hbefore, hlink⟩)
    · exact .node hnodes hbefore hnode
    · rw [nodeCount_unlinked, linkCount_unlinked, Nat.zero_add] at hlink
      exact .link hnodes hlinks (by simpa using hbefore) hlink
  · rintro (⟨hnodes, hbefore, hnode⟩ | ⟨hnodes, hlinks, hbefore, hlink⟩)
    · exact .inl ⟨_, _, _, hnodes, hbefore, hnode, rfl⟩
    · refine .inr ⟨_, ⟨hnodes, rfl⟩, _, _, _, hlinks, ?_, ?_⟩
      · rwa [nodeCount_unlinked]
      · rwa [nodeCount_unlinked, linkCount_unlinked, Nat.zero_add]

/-- The graph of a document is the one that it describes. -/
theorem describes_of_toGraph (h : d.toGraph = .ok g) : d.Describes g := by
  have hg := (built_of_toGraph h).wellFormed
  have hlinks := links_of_toGraph h
  obtain ⟨_, hadd, hlink⟩ := Except.bind_eq_ok.1 h
  obtain ⟨-, rfl⟩ := foldlM_nodes_eq_ok.1 hadd
  obtain ⟨hnodes, hcount⟩ := nodes_of_foldlM_links hlink
  refine ⟨?_, by simpa using hcount, ?_, ?_⟩
  · rw [Graph.nodeCount, hnodes]
    exact nodeCount_unlinked d.nodes
  · intro i node hnode
    exact ⟨node.placed, by simp [hnodes, unlinked, hnode], rfl, rfl⟩
  · intro k link hlink
    rw [← hlinks, List.getElem?_map, Option.map_eq_some_iff] at hlink
    obtain ⟨l, hl, rfl⟩ := hlink
    have hmem := Array.mem_def.2 (List.mem_of_getElem? hl)
    exact ⟨l, by simpa using hl, rfl, rfl, rfl, hg.source_at l hmem, hg.target_at l hmem⟩

/-- **Which documents have a graph, which graph it is, and what the others are refused for.** -/
theorem toGraph_decided (d : Document) :
    ((∃ g, d.toGraph = .ok g) ↔ (d.nodes.map DocumentNode.identifier).Nodup ∧
      ∀ link ∈ d.links, link.Accepted d.nodes.length) ∧
    (∀ g, d.toGraph = .ok g → d.Describes g) ∧
    ∀ fault, d.toGraph = .error fault ↔ d.FirstOffence fault :=
  ⟨exists_toGraph_iff, fun _ => describes_of_toGraph, fun _ => toGraph_eq_error_iff⟩

/-- An identifier that is the name of another node repeats it, whatever the links are. -/
example (links : List DocumentLink) :
    toGraph ⟨[.named "a", ⟨"b", some "a"⟩], links⟩ = .error (.duplicateNode ⟨"a"⟩) := by cbv

/-! ## Orderly documents -/

/-- Identifiers are distinct, and links begin and end at positions of nodes. -/
structure Orderly (d : Document) : Prop where
  nodup_identifiers : (d.nodes.map DocumentNode.identifier).Nodup
  lt_length : ∀ l ∈ d.links, l.source < d.nodes.length ∧ l.target < d.nodes.length

/-- A link of an orderly document is accepted if its value is a weight. -/
theorem Orderly.accepted (hd : d.Orderly) {link : DocumentLink} (hlink : link ∈ d.links)
    (hvalue : Scalar.isMagnitude link.value = true) : link.Accepted d.nodes.length := by
  obtain ⟨hsource, htarget⟩ := hd.lt_length link hlink
  obtain ⟨hfinite, hzero⟩ := (Double.isMagnitude_iff _).1 hvalue
  exact ⟨hsource, htarget, hfinite, hzero⟩

/-- An orderly document has a graph if all of its values can be weights. -/
theorem Orderly.exists_toGraph (hd : d.Orderly)
    (hvalues : ∀ l ∈ d.links, Scalar.isMagnitude l.value = true) : ∃ g, d.toGraph = .ok g :=
  exists_toGraph_iff.2
    ⟨hd.nodup_identifiers, fun link hlink => hd.accepted hlink (hvalues link hlink)⟩

/-- An orderly document with values that cannot be weights is refused for the first of them. -/
theorem Orderly.toGraph_eq_error (hd : d.Orderly) {before after : List DocumentLink}
    {link : DocumentLink} (hlinks : d.links = before ++ link :: after)
    (hbefore : ∀ l ∈ before, Scalar.isMagnitude l.value = true)
    (hlink : Scalar.isMagnitude link.value = false) :
    d.toGraph = .error (.badWeight before.length link.value) := by
  have hmem : link ∈ d.links := by simp [hlinks]
  have haccepted : ∀ l ∈ before, l.Accepted d.nodes.length := by
    intro l hl
    exact hd.accepted (hlinks ▸ List.mem_append_left _ hl) (hbefore l hl)
  obtain ⟨hsource, htarget⟩ := hd.lt_length link hmem
  have hvalue : ¬(link.value.isFinite = true ∧ 0 ≤ link.value) := by
    rw [← Double.isMagnitude_iff, hlink]
    exact Bool.false_ne_true
  exact toGraph_eq_error_iff.2
    (.link hd.nodup_identifiers hlinks haccepted (.value hsource htarget hvalue))

end Document

end NeighborGraph
