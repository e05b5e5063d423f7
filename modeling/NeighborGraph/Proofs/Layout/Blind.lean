import NeighborGraph.Proofs.Graph.Building
import NeighborGraph.Proofs.Scene.Pointer

/-!
# What the layout does not see

Stripped of names, captions, weights and links from a node to itself, a graph is bare
(`Graph.bare`). The layout makes the same of a graph as of the bare one: forces do not change by
this (`Graph.netForces_bare`), nor does a step (`Simulation.bare_step`), and a call that names a
node is a call that points at it, as long as identifiers are distinct
(`LayoutCall.apply_eq_applyAt`). So two graphs that are the same when bare are laid out alike,
call after call (`Simulation.bare_perform`).
-/

namespace NeighborGraph

variable {α : Type} [Scalar α]

/-! ## Bare graphs -/

namespace Node

/-- The node without its names. -/
def bare (node : Node α) : Node α := { node with id := ⟨""⟩, label := "" }

/-- A node moves as it does without its names. -/
theorem bare_advance (node : Node α) (p : ForceParameters α) (timeStep : α) (force : Point α) :
    (node.advance p timeStep force).bare = node.bare.advance p timeStep force := by
  unfold advance
  change _ = if node.pinned then _ else _
  split <;> rfl

end Node

/-- The link without its names and its weight. -/
def Link.bare (l : Link α) : Link α := ⟨⟨""⟩, ⟨""⟩, 0, l.sourceIndex, l.targetIndex⟩

/-- The value of free nodes does not depend on names if the measure does not. -/
theorem greatestFree_bare {measure : Node α → Point α → α}
    (h : ∀ node force, measure node.bare force = measure node force) (nodes : Array (Node α))
    (forces : Array (Point α)) :
    greatestFree measure (nodes.map Node.bare) forces = greatestFree measure nodes forces := by
  unfold greatestFree
  rw [Array.zip_map_left, Array.foldl_map]
  simp only [Prod.map, h]
  rfl

namespace Graph

/-- The graph without names and weights, and without the links from a node to itself. -/
def bare (g : Graph α) : Graph α :=
  ⟨g.nodes.map Node.bare, (g.links.filter fun l => !l.isLoop).map Link.bare⟩

/-- The positions of the ends of the links that have two ends. -/
def ends (g : Graph α) : List (Nat × Nat) :=
  (g.links.toList.filter fun l => !l.isLoop).map fun l => (l.sourceIndex, l.targetIndex)

/-- Leaving out names leaves each node in its position. -/
theorem getElem?_bare (g : Graph α) (i : Nat) : g.bare.nodes[i]? = (g.nodes[i]?).map Node.bare :=
  Array.getElem?_map

@[simp] theorem nodeCount_bare (g : Graph α) : g.bare.nodeCount = g.nodeCount := Array.size_map

@[simp] theorem positionOf_bare (g : Graph α) (i : Nat) : g.bare.positionOf i = g.positionOf i := by
  unfold positionOf
  rw [getElem?_bare]
  cases g.nodes[i]? <;> rfl

/-- The bare links are a matter of the ends of the links. -/
theorem links_bare (g : Graph α) :
    g.bare.links = (g.ends.map fun (i, j) => (⟨⟨""⟩, ⟨""⟩, 0, i, j⟩ : Link α)).toArray := by
  rw [ends, List.map_map, ← Array.toList_filter, ← Array.toList_map, Array.toArray_toList]
  rfl

/-- Between nodes there are the same forces in the bare graph. -/
theorem mutualForces_bare (g : Graph α) (p : ForceParameters α) :
    g.bare.mutualForces p = g.mutualForces p := by
  have hpulls : (g.bare.links.toList.filter fun l => !l.isLoop).map (g.bare.pullOf p) =
      (g.links.toList.filter fun l => !l.isLoop).map (g.pullOf p) := by
    have hloop : (fun l : Link α => !l.isLoop) ∘ Link.bare = fun l => !l.isLoop := rfl
    have hpull : g.bare.pullOf p ∘ Link.bare = g.pullOf p := by
      funext l
      simp only [Function.comp, pullOf, positionOf_bare, Link.bare]
    rw [bare, Array.toList_map, Array.toList_filter, List.filter_map, List.map_map, hloop,
      List.filter_filter, ← bare, hpull]
    simp only [Bool.and_self]
  unfold mutualForces
  rw [hpulls, nodeCount_bare]
  simp only [repulsionBetween, positionOf_bare]

/-- The nodes of the bare graph feel the same forces. -/
theorem netForces_bare (g : Graph α) (p : ForceParameters α) (center : Point α) :
    g.bare.netForces p center = g.netForces p center := by
  unfold netForces
  rw [mutualForces_bare, nodeCount_bare]
  dsimp only [bare]
  rw [Array.zipWith_map_right]
  rfl

/-- Nothing but the number of nodes and the ends of links is left of a bare graph that has just been
built. -/
theorem Built.bare_eq {g g' : Graph α} (hg : g.Built) (hg' : g'.Built)
    (hcount : g'.nodeCount = g.nodeCount) (hends : g'.ends = g.ends) : g'.bare = g.bare := by
  have hbare : ∀ {g : Graph α}, g.Built →
      g.bare.nodes = Array.replicate g.nodeCount ⟨⟨""⟩, "", .origin, .origin, false⟩ := by
    rintro _ ⟨steps, rfl⟩
    refine Array.eq_replicate_iff.2 ⟨Array.size_map, fun node hnode => ?_⟩
    obtain ⟨named, hnamed, rfl⟩ := Array.mem_map.1 hnode
    obtain ⟨hposition, hvelocity, hpinned⟩ := (records_build steps).atRest named hnamed
    rw [Node.bare, hposition, hvelocity, hpinned]
  have hnodes : g'.bare.nodes = g.bare.nodes := by rw [hbare hg, hbare hg', hcount]
  have hlinks : g'.bare.links = g.bare.links := by rw [links_bare, links_bare, hends]
  exact congrArg₂ Graph.mk hnodes hlinks

/-- A node that is changed is so in the bare graph. -/
theorem bare_modifyNode (g : Graph α) (index : Nat) (changed : Node α) :
    (g.modifyNode index fun _ => changed).bare = g.bare.modifyNode index fun _ => changed.bare := by
  refine congrArg (fun nodes => ({ g.bare with nodes } : Graph α)) (Array.ext_getElem? fun i => ?_)
  simp only [modifyNode, bare, Array.getElem?_map, Array.getElem?_modify]
  split
  · rw [Option.map_map, Option.map_map]
    rfl
  · rfl

end Graph

/-! ## Bare simulations -/

namespace Simulation

/-- The simulation of the bare graph. -/
def bare (sim : Simulation α) : Simulation α := { sim with graph := sim.graph.bare }

/-- The nodes of the bare simulation feel the same forces. -/
theorem netForces_bare (sim : Simulation α) : sim.bare.netForces = sim.netForces :=
  sim.graph.netForces_bare sim.forces sim.center

/-- A step of a simulation is one of the bare simulation. -/
theorem bare_step (sim : Simulation α) (timeStep : α) :
    (sim.step timeStep).bare = sim.bare.step timeStep := by
  let time := Scalar.toMagnitude timeStep
  let nodes :=
    sim.graph.nodes.zipWith (fun node force => node.advance sim.forces time force) sim.netForces
  let moved : Simulation α := { sim with graph := { sim.graph with nodes } }
  have hnodes : sim.bare.graph.nodes.zipWith
      (fun node force => node.advance sim.forces time force) sim.bare.netForces =
      nodes.map Node.bare := by
    rw [netForces_bare, Array.map_zipWith]
    simp only [Node.bare_advance]
    exact Array.zipWith_map_left
  let displacement := greatestFree
    (fun node force => (node.stride sim.forces time force).length) sim.graph.nodes sim.netForces
  have hdisplacement : greatestFree
      (fun node force => (node.stride sim.forces time force).length) sim.bare.graph.nodes
      sim.bare.netForces = displacement := by
    rw [netForces_bare]
    exact greatestFree_bare (fun _ _ => rfl) _ _
  have hreach : greatestFree (fun node force => node.reach sim.forces time force)
      (nodes.map Node.bare) moved.bare.netForces =
      greatestFree (fun node force => node.reach sim.forces time force) nodes moved.netForces := by
    rw [netForces_bare]
    exact greatestFree_bare (fun _ _ => rfl) _ _
  unfold step
  dsimp only
  rw [show sim.bare.forces = sim.forces from rfl, hnodes, hdisplacement]
  exact congrArg (fun reach => ({ moved.bare with
    motion? := some ⟨displacement, reach⟩, steps := sim.steps + 1 } : Simulation α)) hreach.symm

/-- The simulation with its nodes scattered over an area, whatever its links are like. -/
def scattered (sim : Simulation α) (area : Size α) : Simulation α :=
  let area : Size α := ⟨Scalar.toMagnitude area.width, Scalar.toMagnitude area.height⟩
  let found := scatterNodes area sim.generator sim.graph.nodes.toList
  { sim with
    generator := found.2
    graph := { sim.graph with nodes := found.1.toArray }
    center := area.center
    motion? := none
    steps := 0 }

/-- Nodes are scattered if the graph passes its check. -/
theorem scatter_of_check {sim : Simulation α} (h : sim.graph.check = .ok ()) (area : Size α) :
    sim.scatter area = .ok (sim.scattered area) :=
  Except.bind_eq_ok.2 ⟨(), h, rfl⟩

/-- Nodes are scattered to the same places without their names. -/
theorem scatterNodes_bare (area : Size α) (generator : Generator) (nodes : List (Node α)) :
    scatterNodes area generator (nodes.map Node.bare) =
      ((scatterNodes area generator nodes).1.map Node.bare,
        (scatterNodes area generator nodes).2) := by
  induction nodes generalizing generator with
  | nil => rfl
  | cons node rest ih =>
    simp only [List.map_cons, scatterNodes, ih]
    rfl

/-- A bare simulation is scattered alike. -/
theorem bare_scattered (sim : Simulation α) (area : Size α) :
    (sim.scattered area).bare = sim.bare.scattered area := by
  have hnodes : sim.bare.graph.nodes.toList = sim.graph.nodes.toList.map Node.bare :=
    Array.toList_map
  unfold scattered
  dsimp only
  rw [hnodes, show sim.bare.generator = sim.generator from rfl, scatterNodes_bare]
  dsimp only
  rw [← List.map_toArray]
  rfl

/-- The simulation with the node at a position changed from outside, if the change applies to it. -/
def overrideAt (sim : Simulation α) (index : Nat) (change : Node α → Option (Node α)) :
    Option (Simulation α) := do
  let node ← sim.graph.nodes[index]?
  let changed ← change node
  return { sim with graph := sim.graph.modifyNode index fun _ => changed, motion? := none }

/-- A node that is taken out of the hands of the simulation is so in the bare one, if this does not
depend on its names. -/
theorem bare_overrideAt (sim : Simulation α) (index : Nat) {change : Node α → Option (Node α)}
    (h : ∀ node, (change node).map Node.bare = change node.bare) :
    (sim.overrideAt index change).map bare = sim.bare.overrideAt index change := by
  unfold overrideAt
  rw [show sim.bare.graph.nodes[index]? = (sim.graph.nodes[index]?).map Node.bare from
    sim.graph.getElem?_bare index]
  cases sim.graph.nodes[index]? with
  | none => rfl
  | some node =>
    change Option.map bare (Option.bind (change node) _) = Option.bind (change node.bare) _
    rw [← h node]
    cases change node with
    | none => rfl
    | some changed =>
      exact congrArg (fun graph => some { sim with graph, motion? := none })
        (sim.graph.bare_modifyNode index changed)

omit [Scalar α] in
/-- Where identifiers are distinct, naming a node is pointing at it. -/
theorem override_eq_overrideAt {sim : Simulation α} (hnd : sim.graph.ids.Nodup) (index : Nat)
    {change : NodeId → Node α → Except PositionFault (Node α)}
    {changeAt : Node α → Option (Node α)}
    (h : ∀ id node, (change id node).toOption = changeAt node) :
    (sim.graph.ids[index]?.bind fun id => (sim.override id (change id)).toOption) =
      sim.overrideAt index changeAt := by
  cases hn : sim.graph.nodes[index]? with
  | none =>
    rw [overrideAt, Graph.getElem?_ids, hn]
    rfl
  | some node =>
    have hid : sim.graph.ids[index]? = some node.id := by rw [Graph.getElem?_ids, hn]; rfl
    have hp := (Graph.position?_eq_some_iff hnd).2 hid
    rw [hid, Option.bind_some, overrideAt, hn]
    simp only [override, hp, hn]
    change _ = Option.bind (changeAt node) _
    rw [← h node.id]
    cases change node.id node <;> rfl

end Simulation

/-! ## Calls -/

/-- What can be asked of a layout. Nodes are given by their positions in the list of nodes. -/
inductive LayoutCall (α : Type) where
  | scatter (area : Size α)
  | step (timeStep : α)
  | pin (index : Nat)
  | move (index : Nat) (position : Point α)
  | unpin (index : Nat)

namespace LayoutCall

/-- The simulation after a call, unless it is refused. The node at a position goes by its
identifier. -/
def apply (call : LayoutCall α) (sim : Simulation α) : Option (Simulation α) :=
  match call with
  | scatter area => (sim.scatter area).toOption
  | step timeStep => some (sim.step timeStep)
  | pin index => sim.graph.ids[index]?.bind fun id => (sim.pin id).toOption
  | move index position => sim.graph.ids[index]?.bind fun id => (sim.move id position).toOption
  | unpin index => sim.graph.ids[index]?.bind fun id => (sim.unpin id).toOption

/-- The simulation after a call, with the node at a position found without its identifier, and
without a look at the links. -/
def applyAt (call : LayoutCall α) (sim : Simulation α) : Option (Simulation α) :=
  match call with
  | scatter area => some (sim.scattered area)
  | step timeStep => some (sim.step timeStep)
  | pin index =>
    sim.overrideAt index fun node => some { node with pinned := true, velocity := .origin }
  | move index position =>
    sim.overrideAt index fun node => if node.pinned then some { node with position } else none
  | unpin index => sim.overrideAt index fun node => some { node with pinned := false }

/-- In a well-formed graph a call by identifier is one by position. -/
theorem apply_eq_applyAt {sim : Simulation α} (h : sim.graph.WellFormed) (call : LayoutCall α) :
    call.apply sim = call.applyAt sim := by
  cases call with
  | scatter area => rw [apply, Simulation.scatter_of_check h.check]; rfl
  | step timeStep => rfl
  | pin index => exact Simulation.override_eq_overrideAt h.nodup_ids index fun _ _ => rfl
  | move index position =>
    refine Simulation.override_eq_overrideAt h.nodup_ids index fun id node => ?_
    split <;> rfl
  | unpin index => exact Simulation.override_eq_overrideAt h.nodup_ids index fun _ _ => rfl

/-- A call by position has the same effect on the bare simulation. -/
theorem bare_applyAt (call : LayoutCall α) (sim : Simulation α) :
    (call.applyAt sim).map Simulation.bare = call.applyAt sim.bare := by
  cases call with
  | scatter area => exact congrArg some (sim.bare_scattered area)
  | step timeStep => exact congrArg some (sim.bare_step timeStep)
  | pin index => exact sim.bare_overrideAt index fun _ => rfl
  | move index position =>
    refine sim.bare_overrideAt index fun node => ?_
    change _ = if node.pinned then _ else _
    split <;> rfl
  | unpin index => exact sim.bare_overrideAt index fun _ => rfl

/-- A call that is not refused keeps the names of the nodes and the links. -/
theorem shape_of_apply {call : LayoutCall α} {sim after : Simulation α}
    (h : call.apply sim = some after) : after.graph.shape = sim.graph.shape := by
  have hkeeps := Simulation.stable_shape sim.graph.shape
  cases call with
  | scatter area =>
    obtain ⟨-, -, hnodes⟩ := Simulation.scatter_eq_ok (Except.toOption_eq_some.1 h)
    exact hnodes.shape_eq Simulation.keepsName_placedAt
  | step timeStep =>
    cases h
    exact Simulation.shape_step sim timeStep
  | pin index =>
    obtain ⟨id, -, h⟩ := Option.bind_eq_some_iff.1 h
    exact hkeeps.pin (Except.toOption_eq_some.1 h) rfl
  | move index position =>
    obtain ⟨id, -, h⟩ := Option.bind_eq_some_iff.1 h
    exact hkeeps.move (Except.toOption_eq_some.1 h) rfl
  | unpin index =>
    obtain ⟨id, -, h⟩ := Option.bind_eq_some_iff.1 h
    exact hkeeps.unpin (Except.toOption_eq_some.1 h) rfl

/-- A call that is accepted leaves a well-formed graph so. -/
theorem wellFormed_of_apply {call : LayoutCall α} {sim after : Simulation α}
    (h : call.apply sim = some after) (hsim : sim.graph.WellFormed) : after.graph.WellFormed :=
  hsim.of_shape_eq (shape_of_apply h)

end LayoutCall

namespace Simulation

/-- The simulation after calls, and for each of them whether it was accepted. A refused call changes
nothing. -/
def perform (sim : Simulation α) : List (LayoutCall α) → Simulation α × List Bool
  | [] => (sim, [])
  | call :: calls =>
    match call.apply sim with
    | some after => ((perform after calls).1, true :: (perform after calls).2)
    | none => ((perform sim calls).1, false :: (perform sim calls).2)

/-- Simulations that are the same when bare accept the same calls, and are the same when bare
afterwards. -/
theorem bare_perform (sim sim' : Simulation α) (hsim : sim.graph.WellFormed)
    (hsim' : sim'.graph.WellFormed) (h : sim'.bare = sim.bare) (calls : List (LayoutCall α)) :
    (sim'.perform calls).1.bare = (sim.perform calls).1.bare ∧
      (sim'.perform calls).2 = (sim.perform calls).2 := by
  induction calls generalizing sim sim' with
  | nil => exact ⟨h, rfl⟩
  | cons call calls ih =>
    have hcall : (call.apply sim').map bare = (call.apply sim).map bare := by
      rw [call.apply_eq_applyAt hsim, call.apply_eq_applyAt hsim', call.bare_applyAt,
        call.bare_applyAt, h]
    unfold perform
    cases hafter : call.apply sim with
    | none =>
      rw [hafter, Option.map_none, Option.map_eq_none_iff] at hcall
      rw [hcall]
      obtain ⟨hbare, hanswers⟩ := ih sim sim' hsim hsim' h
      exact ⟨hbare, congrArg (List.cons _) hanswers⟩
    | some after =>
      rw [hafter, Option.map_some, Option.map_eq_some_iff] at hcall
      obtain ⟨after', hafter', hbare⟩ := hcall
      rw [hafter']
      obtain ⟨hbare, hanswers⟩ := ih after after' (call.wellFormed_of_apply hafter hsim)
        (call.wellFormed_of_apply hafter' hsim') hbare
      exact ⟨hbare, congrArg (List.cons _) hanswers⟩

/-- Two graphs, built by whatever requests, that have as many nodes, and links between the same
positions save for links from a node to itself: whatever is asked of a layout with the same forces
and random numbers, node for node the positions, the velocities and the pins of the two are the same
at every point, the same calls are accepted, and the count of steps and what is known of the motion
are the same. -/
theorem perform_of_ends_eq {g g' : Graph α} (hg : g.Built) (hg' : g'.Built)
    (hcount : g'.nodeCount = g.nodeCount) (hends : g'.ends = g.ends) (forces : ForceParameters α)
    (generator : Generator) (calls : List (LayoutCall α)) :
    let (after, answers) := (ofGraph forces generator g).perform calls
    let (after', answers') := (ofGraph forces generator g').perform calls
    answers' = answers ∧
      (∀ i : Nat,
        after'.graph.nodes[i]?.map (fun node => (node.position, node.velocity, node.pinned)) =
          after.graph.nodes[i]?.map fun node => (node.position, node.velocity, node.pinned)) ∧
      after'.steps = after.steps ∧ after'.displacement? = after.displacement? ∧
      ∀ epsilon, after'.isConverged epsilon = after.isConverged epsilon := by
  have hbare : (ofGraph forces generator g').bare = (ofGraph forces generator g).bare :=
    congrArg (ofGraph forces generator) (hg.bare_eq hg' hcount hends)
  obtain ⟨hbare, hanswers⟩ := bare_perform (ofGraph forces generator g)
    (ofGraph forces generator g') hg.wellFormed hg'.wellFormed hbare calls
  have hstate (sim : Simulation α) (i : Nat) :
      sim.graph.nodes[i]?.map (fun node => (node.position, node.velocity, node.pinned)) =
        sim.bare.graph.nodes[i]?.map fun node => (node.position, node.velocity, node.pinned) := by
    rw [show sim.bare.graph.nodes[i]? = _ from sim.graph.getElem?_bare i, Option.map_map]
    rfl
  have hsteps := congrArg Simulation.steps hbare
  have hmotion := congrArg Simulation.motion? hbare
  refine ⟨hanswers, fun i => ?_, hsteps, ?_, fun epsilon => ?_⟩
  · rw [hstate, hbare, ← hstate]
  · exact congrArg (Option.map Motion.displacement) hmotion
  · exact congrArg (fun motion? => isConverged { ofGraph forces generator g with motion? } epsilon)
      hmotion

/-- Two nodes with a light link, and two with a heavy one between links to themselves: a node that
is dragged away and let go goes the same way in both, and cannot be moved after this. -/
theorem perform_of_ends_eq_twoNodes :
    let g : Graph Float := .build [.node ⟨"a"⟩ "A", .node ⟨"b"⟩ "B", .link ⟨"a"⟩ ⟨"b"⟩ 1]
    let g' : Graph Float := .build [.node ⟨"x"⟩ "X", .node ⟨"y"⟩ "", .link ⟨"y"⟩ ⟨"y"⟩ 3,
      .linkAt 0 1 40, .linkAt 0 0 2]
    let calls : List (LayoutCall Float) := [.scatter ⟨960, 500⟩, .step 1, .pin 0, .move 0 ⟨7, 7⟩,
      .step 1, .unpin 0, .move 0 ⟨8, 8⟩, .step 1]
    g.nodeCount = 2 ∧ g.ends = [(0, 1)] ∧ g'.nodeCount = 2 ∧ g'.ends = [(0, 1)] ∧
      let after := (ofGraph .default (.ofSeed 7) g).perform calls
      let after' := (ofGraph .default (.ofSeed 7) g').perform calls
      after.2 = [true, true, true, true, true, true, false, true] ∧ after'.2 = after.2 ∧
        after'.1.graph.nodes[0]?.map (·.position) = after.1.graph.nodes[0]?.map (·.position) := by
  intro g g' calls
  have hends : g.ends = [(0, 1)] := by decide +kernel
  have hends' : g'.ends = [(0, 1)] := by decide +kernel
  have hbuilt : g.Built := ⟨_, rfl⟩
  have hbuilt' : g'.Built := ⟨_, rfl⟩
  obtain ⟨hanswers, hstate, -⟩ := perform_of_ends_eq hbuilt hbuilt' (by decide +kernel)
    (hends'.trans hends.symm) .default (.ofSeed 7) calls
  refine ⟨by decide +kernel, hends, by decide +kernel, hends', by decide +kernel, hanswers, ?_⟩
  have hposition := congrArg (Option.map Prod.fst) (hstate 0)
  rwa [Option.map_map, Option.map_map] at hposition

end Simulation

end NeighborGraph
