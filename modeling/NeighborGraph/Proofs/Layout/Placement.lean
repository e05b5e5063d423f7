import NeighborGraph.Proofs.Layout.Blind

/-!
# Where nodes are scattered to

A generator stands at a point of a stream of numbers. Scattering takes the next two numbers of the
stream for each node, in the order of the nodes, and looks at nothing else of the graph
(`Simulation.scatterNodes_eq`). No other call of a layout draws a number
(`LayoutCall.generator_of_apply`), so that each time the nodes are scattered the stream goes on
where it was left (`Simulation.generator_perform`).
-/

namespace NeighborGraph

/-! ## Draws -/

namespace Generator

variable {α : Type} [Scalar α] (g : Generator)

/-- The number that is drawn after the next `k` ones. -/
def ahead (k : Nat) : α := g.unitAt (g.drawn + k)

/-- The generator after `k` draws. -/
def skip (k : Nat) : Generator := { g with drawn := g.drawn + k }

@[simp] theorem skip_zero : g.skip 0 = g := rfl

@[simp] theorem skip_skip (j k : Nat) : (g.skip j).skip k = g.skip (j + k) :=
  congrArg (mk g.key) (Nat.add_assoc g.drawn j k)

@[simp] theorem ahead_skip (j k : Nat) : ((g.skip j).ahead k : α) = g.ahead (j + k) :=
  congrArg g.unitAt (Nat.add_assoc g.drawn j k)

/-- A draw takes the next number of the stream. -/
theorem unit_eq : (g.unit : α × Generator) = (g.ahead 0, g.skip 1) := rfl

end Generator

/-! ## Scattering -/

namespace Double

/-- An extent as it counts: one that is negative, infinite or undefined counts as zero. -/
def extent (a : Float) : Float := if a.isFinite = true ∧ 0 < a then a else 0

/-- What a number counts as an extent is its magnitude. -/
theorem toMagnitude_eq_extent (a : Float) : Scalar.toMagnitude a = extent a := by
  have hzero : ¬ ¬ (0 : Float) ≤ 0 := by decide +kernel
  unfold Scalar.toMagnitude extent
  by_cases hfinite : a.isFinite = true
  · refine (if_pos hfinite).trans ?_
    by_cases hpos : 0 < a
    · rw [if_pos ⟨hfinite, hpos⟩]
      exact if_pos (.inl hpos)
    · rw [if_neg fun h => hpos h.2]
      exact if_neg fun h => h.elim hpos hzero
  · exact (if_neg hfinite).trans (if_neg fun h => hfinite h.1).symm

end Double

/-- The place over an area that the draws with a number give: a pair of draws for each number. -/
def Generator.spot (g : Generator) (area : Size Float) (number : Nat) : Point Float :=
  ⟨g.ahead (2 * number) * Double.extent area.width,
    g.ahead (2 * number + 1) * Double.extent area.height⟩

/-- After an even number of draws the spots are those further on. -/
theorem Generator.spot_skip (g : Generator) (area : Size Float) (j number : Nat) :
    (g.skip (2 * j)).spot area number = g.spot area (j + number) := by
  simp only [spot, ahead_skip, Nat.mul_add, Nat.add_assoc]

namespace Simulation

variable {α : Type} [Scalar α]

/-- Each node takes the next two draws, whatever the nodes are. -/
theorem scatterNodes_eq (area : Size α) (g : Generator) (nodes : List (Node α)) :
    scatterNodes area g nodes =
      (nodes.mapIdx fun i node =>
        node.placedAt ⟨g.ahead (2 * i) * area.width, g.ahead (2 * i + 1) * area.height⟩,
        g.skip (2 * nodes.length)) := by
  induction nodes generalizing g with
  | nil => rfl
  | cons node rest ih =>
    have hnext (i : Nat) : 2 * (i + 1) = 1 + 1 + 2 * i := by omega
    simp only [scatterNodes, Generator.unit_eq, ih, List.mapIdx_cons, Generator.skip_skip,
      Generator.ahead_skip, List.length_cons, hnext]
    rfl

/-- A graph with a fault is refused, with the fault that the check finds. -/
theorem scatter_eq_error_iff {sim : Simulation α} {area : Size α} {fault : GraphFault α} :
    sim.scatter area = .error fault ↔ sim.graph.check = .error fault := by
  refine Except.bind_eq_error.trans ⟨fun h => h.resolve_right ?_, .inl⟩
  rintro ⟨-, -, h⟩
  cases h

/-- What scattering makes of a simulation, if the check finds no fault. -/
theorem scatter_eq {sim : Simulation Float} (h : sim.graph.check = .ok ()) (area : Size Float) :
    sim.scatter area = .ok { sim with
      generator := sim.generator.skip (2 * sim.graph.nodeCount)
      graph := { sim.graph with
        nodes := sim.graph.nodes.mapIdx fun i node =>
          node.placedAt (sim.generator.spot area i) }
      center := ⟨Double.extent area.width / 2, Double.extent area.height / 2⟩
      motion? := none
      steps := 0 } := by
  have hnodes : (sim.graph.nodes.toList.mapIdx fun i node =>
      node.placedAt (sim.generator.spot area i)).toArray =
      sim.graph.nodes.mapIdx fun i node => node.placedAt (sim.generator.spot area i) := by
    rw [← Array.toList_mapIdx]
  have hscatter := scatter_of_check h area
  unfold scattered at hscatter
  simp only [scatterNodes_eq, Double.toMagnitude_eq_extent] at hscatter
  rw [hscatter, ← hnodes]
  rfl

end Simulation

/-! ## Further calls -/

namespace LayoutCall

variable {α : Type} [Scalar α]

/-- The call scatters the nodes. -/
def scatters : LayoutCall α → Bool
  | scatter _ => true
  | _ => false

/-- Scattering takes two draws for each node, and no other call takes any. -/
theorem generator_of_apply {call : LayoutCall α} {sim after : Simulation α}
    (h : call.apply sim = some after) :
    after.generator =
      if call.scatters then sim.generator.skip (2 * sim.graph.nodeCount) else sim.generator := by
  have hoverride {id : NodeId} {change : Node α → Except PositionFault (Node α)}
      (h : (sim.override id change).toOption = some after) : after.generator = sim.generator := by
    obtain ⟨index, node, changed, -, -, rfl⟩ :=
      Simulation.override_eq_ok (Except.toOption_eq_some.1 h)
    rfl
  cases call with
  | scatter area =>
    obtain ⟨-, -, h⟩ := Except.bind_eq_ok.1 (Except.toOption_eq_some.1 h)
    simp only [Simulation.scatterNodes_eq] at h
    cases h
    rfl
  | step timeStep =>
    cases h
    rfl
  | pin index | move index position | unpin index =>
    obtain ⟨id, -, h⟩ := Option.bind_eq_some_iff.1 h
    exact hoverride h

/-- A call leaves as many nodes as there are. -/
theorem nodeCount_of_apply {call : LayoutCall α} {sim after : Simulation α}
    (h : call.apply sim = some after) : after.graph.nodeCount = sim.graph.nodeCount := by
  rw [← Graph.length_ids, Graph.ids_eq_of_shape_eq (shape_of_apply h), Graph.length_ids]

end LayoutCall

namespace Simulation

variable {α : Type} [Scalar α]

/-- After calls on a graph that passes its check, the generator has given two numbers for each node
and each time that the nodes were scattered. The graph passes its check as before. -/
theorem generator_perform {sim : Simulation α} (h : sim.graph.check = .ok ())
    (calls : List (LayoutCall α)) :
    (sim.perform calls).1.graph.check = .ok () ∧
      (sim.perform calls).1.generator =
        sim.generator.skip (2 * (sim.graph.nodeCount * calls.countP LayoutCall.scatters)) := by
  induction calls generalizing sim with
  | nil => exact ⟨h, rfl⟩
  | cons call calls ih =>
    unfold perform
    cases hafter : call.apply sim with
    | some after =>
      have hcheck := (Graph.check_of_shape_eq (call.shape_of_apply hafter)).trans h
      obtain ⟨hlast, hgenerator⟩ := ih hcheck
      refine ⟨hlast, hgenerator.trans ?_⟩
      rw [call.nodeCount_of_apply hafter, call.generator_of_apply hafter, List.countP_cons]
      split
      · rw [Generator.skip_skip]
        rw [Nat.mul_add, Nat.mul_add, Nat.mul_one, Nat.add_comm]
      · rfl
    | none =>
      -- A call that is refused is not one that scatters.
      have hscatters : call.scatters = false := by
        cases call with
        | scatter area =>
          obtain ⟨after, hscatter⟩ := exists_scatter_eq_ok h area
          rw [LayoutCall.apply, hscatter] at hafter
          cases hafter
        | _ => rfl
      obtain ⟨hlast, hgenerator⟩ := ih h
      refine ⟨hlast, hgenerator.trans ?_⟩
      rw [List.countP_cons, hscatters]
      rfl

/-- A graph is scattered if it passes its check; if not, it and the generator stay as they are.
Scattering puts the nodes at rest on the spots that the draws to come give, and keeps what they are
and how they are linked. So simulations with the same draws to come put as many nodes as both have
on the same spots, whatever the nodes are, and scattering the nodes again goes on in the stream of
draws, whatever has been done in between. -/
theorem scatter_by_draws (sim : Simulation Float) (area : Size Float) :
    (∀ fault, sim.scatter area = .error fault ↔ sim.graph.check = .error fault) ∧
    (∀ fault, sim.graph.check = .error fault → ∀ calls,
      sim.perform (.scatter area :: calls) =
        ((sim.perform calls).1, false :: (sim.perform calls).2)) ∧
    (sim.graph.check = .ok () →
      sim.scatter area = .ok { sim with
        generator := sim.generator.skip (2 * sim.graph.nodeCount)
        graph := { sim.graph with
          nodes := sim.graph.nodes.mapIdx fun i node =>
            { node with position := sim.generator.spot area i, velocity := .origin } }
        center := ⟨Double.extent area.width / 2, Double.extent area.height / 2⟩
        motion? := none
        steps := 0 } ∧
      (∀ other : Simulation Float, other.generator = sim.generator →
        other.graph.check = .ok () → ∃ after after', sim.scatter area = .ok after ∧
          other.scatter area = .ok after' ∧
          ∀ n, n ≤ sim.graph.nodeCount → n ≤ other.graph.nodeCount →
            (after'.graph.nodes.toList.take n).map (·.position) =
              (after.graph.nodes.toList.take n).map (·.position)) ∧
      ∀ calls : List (LayoutCall Float), ∃ again,
        (sim.perform calls).1.scatter area = .ok again ∧
          ∀ i node, again.graph.nodes[i]? = some node →
            node.position = sim.generator.spot area
              (sim.graph.nodeCount * calls.countP LayoutCall.scatters + i)) := by
  refine ⟨fun fault => scatter_eq_error_iff, fun fault h calls => ?_, fun h => ⟨scatter_eq h area,
    fun other hgenerator hother => ?_, fun calls => ?_⟩⟩
  · have hrefused : (LayoutCall.scatter area).apply sim = none := by
      rw [LayoutCall.apply, scatter_eq_error_iff.2 h]
      rfl
    rw [perform, hrefused]
  · refine ⟨_, _, scatter_eq h area, scatter_eq hother area, fun n hn hn' => ?_⟩
    have hpositions {sim : Simulation Float} (hn : n ≤ sim.graph.nodeCount) :
        ((sim.graph.nodes.mapIdx fun i node =>
          node.placedAt (sim.generator.spot area i)).toList.take n).map (·.position) =
          (List.range n).map (sim.generator.spot area) := by
      refine List.ext_getElem ?_ fun i hi hi' => ?_
      · simp [show n ≤ sim.graph.nodes.size from hn]
      · simp [Node.placedAt]
    rw [hpositions hn, hpositions hn', hgenerator]
  · obtain ⟨hcheck, hgenerator⟩ := generator_perform h calls
    refine ⟨_, scatter_eq hcheck area, fun i node hnode => ?_⟩
    rw [Array.getElem?_mapIdx, Option.map_eq_some_iff] at hnode
    obtain ⟨before, -, rfl⟩ := hnode
    rw [hgenerator]
    exact Generator.spot_skip ..

/-- A graph with a link to a node that is not there is refused. A pair of linked nodes and a single
node begin on the same spot, and the pair goes on with the third spot after a step and a refused
call. -/
theorem scatter_by_draws_pair :
    let pair : Graph Float := .build [.node ⟨"a"⟩ "A", .node ⟨"b"⟩ "B", .link ⟨"a"⟩ ⟨"b"⟩ 1]
    let single : Graph Float := .build [.node ⟨"x"⟩ "X"]
    let dangling : Graph Float := { pair with links := #[⟨⟨"a"⟩, ⟨"c"⟩, 1, 0, 2⟩] }
    let sim (g : Graph Float) : Simulation Float := ofGraph .default (.ofSeed 7) g
    let area : Size Float := ⟨960, -500⟩
    (sim dangling).perform [.scatter area] = (sim dangling, [false]) ∧
      (∃ after after', (sim pair).scatter area = .ok after ∧
        (sim single).scatter area = .ok after' ∧
        (after'.graph.nodes.toList.take 1).map (·.position) =
          (after.graph.nodes.toList.take 1).map (·.position)) ∧
      ∃ again, ((sim pair).perform [.scatter area, .step 1, .move 5 .origin]).1.scatter area =
          .ok again ∧
        ∀ node, again.graph.nodes[0]? = some node →
          node.position = (Generator.ofSeed 7).spot area 2 := by
  intro pair single dangling sim area
  have hpair : pair.check = .ok () := Except.toOption_eq_some.1 (by decide +kernel)
  have hsingle : single.check = .ok () := Except.toOption_eq_some.1 (by decide +kernel)
  have hdangling : dangling.check = .error (.unknownEnd 0 ⟨"c"⟩) := by
    have hsource : dangling.position? ⟨"a"⟩ = some 0 := by decide +kernel
    have htarget : dangling.position? ⟨"c"⟩ = none := by decide +kernel
    simp only [Graph.check, dangling, Graph.checkLinks, Graph.checkLink, Graph.checkEnd] at *
    rw [hsource, htarget]
    rfl
  obtain ⟨-, hrefused, -⟩ := scatter_by_draws (sim dangling) area
  obtain ⟨-, hboth, hagain⟩ := (scatter_by_draws (sim pair) area).2.2 hpair
  refine ⟨hrefused _ hdangling [], ?_, ?_⟩
  · obtain ⟨after, after', hafter, hafter', hpositions⟩ := hboth (sim single) rfl hsingle
    have hone : 1 ≤ pair.nodeCount := by decide +kernel
    have hone' : 1 ≤ single.nodeCount := by decide +kernel
    exact ⟨after, after', hafter, hafter', hpositions 1 hone hone'⟩
  · have htwo : pair.nodeCount = 2 := by decide +kernel
    obtain ⟨again, hscatter, hspots⟩ := hagain [.scatter area, .step 1, .move 5 .origin]
    refine ⟨again, hscatter, fun node hnode => (hspots 0 node hnode).trans ?_⟩
    change (Generator.ofSeed 7).spot area (pair.nodeCount * 1 + 0) = _
    rw [htwo]

end Simulation

end NeighborGraph
