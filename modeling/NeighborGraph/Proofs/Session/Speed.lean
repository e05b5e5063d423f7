import NeighborGraph.Proofs.Layout.Reach
import NeighborGraph.Proofs.Session.Holding
import NeighborGraph.Proofs.Session.Shape

/-!
# Bounded speed

The force on a node is clamped before it acts, however many forces it is the sum of, so that each
step adds at most the greatest force to a velocity and then damps it. In exact arithmetic the speed
at which these two are in balance (`ForceParameters.topSpeed`) is not exceeded once it has been
kept: not by a step (`Node.length_velocity_advance_le`), and not by a pointer, which only brings
nodes to rest. `Session.speed_bounded` says this of whole sessions, which start at rest.
-/

namespace NeighborGraph

/-! ## Steps -/

/-- The speed at which damping takes away what the greatest force adds. -/
noncomputable def ForceParameters.topSpeed (p : ForceParameters ℝ) (timeStep : ℝ) : ℝ :=
  p.damping * p.maxForce * timeStep / (1 - p.damping)

namespace ForceParameters

variable {p : ForceParameters ℝ} {timeStep : ℝ}

/-- The parameters and the time of a step are as a configuration that passes its check has them. -/
structure Admissible (p : ForceParameters ℝ) (timeStep : ℝ) : Prop where
  damping_nonneg : 0 ≤ p.damping
  damping_lt : p.damping < 1
  maxForce_pos : 0 < p.maxForce
  timeStep_pos : 0 < timeStep

/-- The top speed is not negative. -/
theorem Admissible.topSpeed_nonneg (hp : p.Admissible timeStep) : 0 ≤ p.topSpeed timeStep :=
  div_nonneg (mul_nonneg (mul_nonneg hp.damping_nonneg hp.maxForce_pos.le) hp.timeStep_pos.le)
    (sub_nonneg.2 hp.damping_lt.le)

/-- At the top speed, one more push is damped away again. -/
theorem Admissible.topSpeed_add (hp : p.Admissible timeStep) :
    p.topSpeed timeStep + p.maxForce * timeStep = p.maxForce * timeStep / (1 - p.damping) := by
  have hne : 1 - p.damping ≠ 0 := (sub_pos.2 hp.damping_lt).ne'
  rw [topSpeed]
  field_simp
  ring

end ForceParameters

namespace Node

variable {p : ForceParameters ℝ} {timeStep : ℝ} {node : Node ℝ}

/-- A node below the top speed is pushed to no more than the speed that damping brings back to it.
-/
theorem length_drive_le_of_slow (hp : p.Admissible timeStep)
    (hslow : node.velocity.length ≤ p.topSpeed timeStep) (force : Point ℝ) :
    (node.drive p timeStep force).length ≤ p.maxForce * timeStep / (1 - p.damping) := by
  calc (node.drive p timeStep force).length
      ≤ node.velocity.length + (force.clampLength p.maxForce).length * timeStep :=
        length_drive_le force hp.timeStep_pos.le
    _ ≤ p.topSpeed timeStep + p.maxForce * timeStep := by
        have hforce := Point.length_clampLength_le force hp.maxForce_pos.le
        exact add_le_add hslow (mul_le_mul_of_nonneg_right hforce hp.timeStep_pos.le)
    _ = p.maxForce * timeStep / (1 - p.damping) := hp.topSpeed_add

/-- A step does not take a node beyond the top speed, whatever force acts on it. -/
theorem length_velocity_advance_le (hp : p.Admissible timeStep)
    (hslow : node.velocity.length ≤ p.topSpeed timeStep) (force : Point ℝ) :
    (node.advance p timeStep force).velocity.length ≤ p.topSpeed timeStep := by
  cases hfree : node.pinned with
  | true =>
    rw [advance, if_pos hfree]
    exact Point.length_origin.trans_le hp.topSpeed_nonneg
  | false =>
    rw [length_velocity_advance force hfree hp.damping_nonneg]
    calc (node.drive p timeStep force).length * p.damping
        ≤ p.maxForce * timeStep / (1 - p.damping) * p.damping :=
          mul_le_mul_of_nonneg_right (length_drive_le_of_slow hp hslow force) hp.damping_nonneg
      _ = p.topSpeed timeStep := by rw [ForceParameters.topSpeed]; ring

/-- How far a node below the top speed goes in a step. -/
theorem distance_advance_le (hp : p.Admissible timeStep) (hfree : node.pinned = false)
    (hslow : node.velocity.length ≤ p.topSpeed timeStep) (force : Point ℝ) :
    (node.advance p timeStep force).position.distance node.position ≤
      p.maxForce * timeStep ^ 2 / (1 - p.damping) := by
  rw [distance_advance force hfree hp.timeStep_pos.le]
  calc (node.drive p timeStep force).length * timeStep
      ≤ p.maxForce * timeStep / (1 - p.damping) * timeStep :=
        mul_le_mul_of_nonneg_right (length_drive_le_of_slow hp hslow force) hp.timeStep_pos.le
    _ = p.maxForce * timeStep ^ 2 / (1 - p.damping) := by ring

end Node

namespace Simulation

variable {p : ForceParameters ℝ} {timeStep : ℝ} {sim : Simulation ℝ}

/-- No node is faster than the top speed of the parameters. -/
structure Slow (p : ForceParameters ℝ) (timeStep : ℝ) (sim : Simulation ℝ) : Prop where
  forces_eq : sim.forces = p
  length_le : ∀ node ∈ sim.graph.nodes, node.velocity.length ≤ p.topSpeed timeStep

/-- A step leaves all nodes below the top speed. -/
theorem Slow.step (h : sim.Slow p timeStep) (hp : p.Admissible timeStep) :
    (sim.step timeStep).Slow p timeStep := by
  obtain ⟨rfl, hslow⟩ := h
  refine ⟨rfl, fun node' hnode' => ?_⟩
  obtain ⟨node, hnode, force, rfl⟩ := (sim.nodewise_step timeStep).mem hnode'
  rw [Scalar.toMagnitude_of_nonneg hp.timeStep_pos.le]
  exact Node.length_velocity_advance_le hp (hslow node hnode) force

/-- Pinning brings a node to rest, and the other overrides do not touch its velocity. -/
theorem stable_slow (hp : p.Admissible timeStep) : Stable (Slow p timeStep) where
  pin h hslow := by
    refine ⟨(stable_forces p).pin h hslow.forces_eq, ?_⟩
    refine forall_of_override_eq_ok hslow.length_le (fun node changed hc _ => ?_) h
    cases hc
    exact Point.length_origin.trans_le hp.topSpeed_nonneg
  move h hslow := by
    refine ⟨(stable_forces p).move h hslow.forces_eq, ?_⟩
    refine forall_of_override_eq_ok hslow.length_le (fun node changed hc hnode => ?_) h
    split at hc <;> cases hc
    exact hnode
  unpin h hslow := by
    refine ⟨(stable_forces p).unpin h hslow.forces_eq, ?_⟩
    refine forall_of_override_eq_ok hslow.length_le (fun node changed hc hnode => ?_) h
    cases hc
    exact hnode

end Simulation

/-! ## Sessions -/

/-- A configuration that passes its check has admissible parameters. -/
theorem Config.admissible_of_check {config : Config ℝ} (h : config.check = .ok ()) :
    config.layout.forces.Admissible config.simulation.timeStep := by
  obtain ⟨hlayout, hsimulation⟩ := Config.sections_of_check h
  have hdamping := hlayout ("damping", .fraction, config.layout.forces.damping)
    (by simp [LayoutConfig.requirements, ForceParameters.requirements])
  have hforce := hlayout ("max_force", .positive, config.layout.forces.maxForce)
    (by simp [LayoutConfig.requirements, ForceParameters.requirements])
  have htime := hsimulation ("time_step", .positive, config.simulation.timeStep)
    (by simp [SimulationConfig.requirements])
  obtain ⟨hnonneg, hlt⟩ := Requirement.holds_fraction_iff.1 hdamping
  exact ⟨hnonneg, hlt, Requirement.holds_positive_iff.1 hforce,
    Requirement.holds_positive_iff.1 htime⟩

namespace Session

variable {config : Config ℝ}

/-- Ticks, runs and the pointer do not take the nodes of a session beyond the top speed. -/
theorem invariant_slow {p : ForceParameters ℝ} {timeStep : ℝ} (hp : p.Admissible timeStep) :
    Invariant fun s : Session ℝ => s.timeStep = timeStep ∧ s.scene.simulation.Slow p timeStep where
  advance := by
    rintro s - ⟨rfl, hslow⟩
    exact ⟨rfl, hslow.step hp⟩
  close h := h
  press point h := ⟨h.1, (Simulation.stable_slow hp).press point h.2⟩
  moveTo point h := ⟨h.1, (Simulation.stable_slow hp).moveTo point h.2⟩
  release h := ⟨h.1, (Simulation.stable_slow hp).release h.2⟩

/-- A session starts at rest. -/
theorem slow_of_start (hconfig : config.check = .ok ()) {spareSeed : UInt64} {graph : Graph ℝ}
    {s₀ : Session ℝ} (h : start config spareSeed graph = .ok s₀) :
    s₀.timeStep = config.simulation.timeStep ∧
      s₀.scene.simulation.Slow config.layout.forces config.simulation.timeStep := by
  obtain ⟨-, simulation, hscatter, rfl⟩ := start_eq_ok h
  obtain ⟨hforces, -, -⟩ := Simulation.nodes_of_scatter_eq_ok hscatter
  obtain ⟨-, -, hplaced⟩ := Simulation.scatter_eq_ok hscatter
  refine ⟨rfl, hforces, fun node' hnode' => ?_⟩
  obtain ⟨node, -, position, rfl⟩ := hplaced.mem hnode'
  exact Point.length_origin.trans_le (Config.admissible_of_check hconfig).topSpeed_nonneg

/-- In a session below the top speed, a tick moves no free node far. -/
theorem distance_tick_le {σ : Type} {p : ForceParameters ℝ} {timeStep : ℝ} {s : Session ℝ}
    (hp : p.Admissible timeStep) (htime : s.timeStep = timeStep)
    (hslow : s.scene.simulation.Slow p timeStep) (surface : Surface ℝ σ) (state : σ)
    {i : ℕ} {node : Node ℝ}
    (hn : s.scene.simulation.graph.nodes[i]? = some node) (hfree : node.pinned = false) :
    ∃ node', (s.tick surface state).1.1.scene.simulation.graph.nodes[i]? = some node' ∧
      node'.position.distance node.position ≤ p.maxForce * timeStep ^ 2 / (1 - p.damping) := by
  obtain ⟨rfl, hlength⟩ := hslow
  subst htime
  have hnode := hlength node (Array.mem_of_getElem? hn)
  rw [scene_tick]
  -- after the window has been closed a tick does nothing
  cases s.closed with
  | true =>
    refine ⟨node, hn, ?_⟩
    rw [Point.distance_self]
    exact div_nonneg (mul_nonneg hp.maxForce_pos.le (sq_nonneg _)) (sub_nonneg.2 hp.damping_lt.le)
  | false =>
    obtain ⟨force, hf⟩ := Simulation.exists_getElem?_netForces hn
    refine ⟨_, Simulation.getElem?_step hn hf s.timeStep, ?_⟩
    rw [Scalar.toMagnitude_of_nonneg hp.timeStep_pos.le]
    exact Node.distance_advance_le hp hfree hnode force

/-- In exact arithmetic, with any configuration that passes its check, on any graph that does: a
session starts, and after every history of it, also in the midst of a run, no node is faster than
the top speed, and no tick moves a free node farther than the top speed and one push take it. -/
theorem speed_bounded (hconfig : config.check = .ok ()) {graph : Graph ℝ}
    (hgraph : graph.check = .ok ()) (spareSeed : UInt64) :
    let p := config.layout.forces
    let timeStep := config.simulation.timeStep
    ∃ s₀, start config spareSeed graph = .ok s₀ ∧
      ∀ (ops : List (Operation ℝ)) {σ : Type} (surface : Surface ℝ σ) (ticks : ℕ) (state : σ)
        (s : Session ℝ) (state' : σ), Runs surface ticks (s₀.after ops, state) (s, state') →
      (∀ node ∈ s.scene.simulation.graph.nodes,
        node.velocity.length ≤ p.damping * p.maxForce * timeStep / (1 - p.damping)) ∧
      ∀ (i : ℕ) (node : Node ℝ), s.scene.simulation.graph.nodes[i]? = some node →
        node.pinned = false →
        ∃ node', (s.tick surface state').1.1.scene.simulation.graph.nodes[i]? = some node' ∧
          node'.position.distance node.position ≤ p.maxForce * timeStep ^ 2 / (1 - p.damping) := by
  intro p timeStep
  obtain ⟨-, s₀, hstart⟩ | ⟨fault, hfault, -⟩ := start_of_check hgraph config spareSeed
  swap
  · rw [hconfig] at hfault
    cases hfault
  have hp := Config.admissible_of_check hconfig
  refine ⟨s₀, hstart, fun ops σ surface ticks state s state' hruns => ?_⟩
  obtain ⟨htime, hslow⟩ := (invariant_slow hp).runs hruns
    ((invariant_slow hp).after (slow_of_start hconfig hstart) ops)
  exact ⟨hslow.length_le, fun i node => distance_tick_le hp htime hslow surface state'⟩

/-- The usual configuration passes its check over the reals. -/
theorem check_default_real : Config.check (Config.default : Config ℝ) = .ok () := by
  have hstrengths : (0 : ℝ) ≤ 120.0 ∧ (0 : ℝ) ≤ 0.1 ∧ (0 : ℝ) ≤ 30.0 ∧ (0 : ℝ) ≤ 0.0 := by norm_num
  have hdamping : (0 : ℝ) ≤ 0.9 ∧ (0.9 : ℝ) < 1 := by norm_num
  have hlimits : (0 : ℝ) < 100.0 ∧ (0 : ℝ) < 1.0 := by norm_num
  have hcanvas : (0 : ℝ) ≤ 960.0 ∧ (0 : ℝ) ≤ 500.0 := by norm_num
  have hcourse : (0 : ℝ) < 1.0 ∧ (0 : ℝ) < 0.01 := by norm_num
  have hstyle : (0 : ℝ) < 40.0 ∧ (0 : ℝ) < 12.0 ∧ (0 : ℝ) ≤ 1.0 := by norm_num
  refine Except.bind_eq_ok.2 ⟨(), Requirements.check_of_holds ?_ _,
    Except.bind_eq_ok.2 ⟨(), Requirements.check_of_holds ?_ _, Requirements.check_of_holds ?_ _⟩⟩
  · simp only [LayoutConfig.requirements, ForceParameters.requirements, List.forall_mem_cons,
      Requirement.holds_magnitude_iff, Requirement.holds_positive_iff,
      Requirement.holds_fraction_iff]
    obtain ⟨hcharge, hspring, hrest, hgravity⟩ := hstrengths
    exact ⟨hcanvas.1, hcanvas.2, hcharge, hspring, hrest, hgravity, hdamping, hlimits.1, hlimits.2,
      List.forall_mem_nil _⟩
  · simp only [SimulationConfig.requirements, List.forall_mem_cons, Requirement.holds_positive_iff]
    exact ⟨hcourse.1, hcourse.2, List.forall_mem_nil _⟩
  · simp only [StyleConfig.requirements, List.forall_mem_cons, Requirement.holds_magnitude_iff,
      Requirement.holds_positive_iff]
    exact ⟨hstyle.1, hstyle.1, hstyle.2.1, hstyle.2.2, List.forall_mem_nil _⟩

/-- A box that is large enough to contain a point contains that at which it is placed. -/
theorem contains_boxAt {style : Style ℝ} (hwidth : 0 ≤ style.nodeSize.width)
    (hheight : 0 ≤ style.nodeSize.height) (position : Point ℝ) :
    (style.boxAt position).contains position = true := by
  unfold Style.boxAt NodeAnchor.place
  split <;> simp [Bounds.contains, Bounds.ofCorner, Bounds.ofCenter, hwidth, hheight,
    div_nonneg hwidth, div_nonneg hheight]

/-- A pointer that holds nothing and is pressed at the position of a node holds one. -/
theorem exists_held?_press {s : Session ℝ} (h : s.scene.Consistent) (hfree : s.scene.grab? = none)
    (hwidth : 0 ≤ s.scene.style.nodeSize.width) (hheight : 0 ≤ s.scene.style.nodeSize.height)
    {node : Node ℝ} (hnode : node ∈ s.scene.simulation.graph.nodes) :
    ∃ id, (s.press node.position).1.scene.held? = some id := by
  obtain ⟨free, hrelease, hpress⟩ := h.press_cases node.position
  have hfree : s.scene.release.1 = s.scene := by rw [Scene.release, hfree]
  rw [hrelease] at hfree
  cases hfree
  obtain ⟨hmiss, -⟩ | ⟨id, taken, -, -, he⟩ := hpress
  · rw [Scene.hit?, Style.topmost?, Option.map_eq_none_iff, List.find?_eq_none] at hmiss
    exact absurd (contains_boxAt hwidth hheight node.position)
      (hmiss node (List.mem_reverse.2 (Array.mem_toList_iff.2 hnode)))
  · have hheld := held?_press h node.position
    have hanswer : (s.press node.position).2 = .ok (some id) := congrArg Prod.snd he
    exact ⟨id, Except.ok.inj (hheld.symm.trans hanswer)⟩

/-- With the usual configuration no node is faster than 900, and no tick moves a node by more than
1000: two nodes with two links, one of which the pointer takes far away and lets go there. -/
theorem speed_bounded_default :
    let graph : Graph ℝ := Graph.build
      [.node ⟨"a"⟩ "A", .node ⟨"b"⟩ "B", .linkAt 0 1 1, .linkAt 0 1 2]
    Config.check (Config.default : Config ℝ) = .ok () ∧ graph.check = .ok () ∧
      ∃ s₀ point id, start .default 0 graph = .ok s₀ ∧
        (s₀.press point).1.scene.held? = some id ∧
        let s : Session ℝ := s₀.after [.press point, .moveTo ⟨1000000, 0⟩,
          .tick Recording.surface .blank, .release, .run Recording.surface 3 .blank]
        Runs Recording.surface 0 (s, .blank) (s, .blank) ∧
        (∀ node ∈ s.scene.simulation.graph.nodes, node.velocity.length ≤ 900) ∧
        ∀ (i : ℕ) (node : Node ℝ), s.scene.simulation.graph.nodes[i]? = some node →
          node.pinned = false →
          ∃ node',
            (s.tick Recording.surface .blank).1.1.scene.simulation.graph.nodes[i]? = some node' ∧
              node'.position.distance node.position ≤ 1000 := by
  intro graph
  have hbuilt : graph.Built := ⟨_, rfl⟩
  have hgraph : graph.check = .ok () := hbuilt.wellFormed.check
  have hids : graph.ids = [⟨"a"⟩, ⟨"b"⟩] := by
    simp [graph, Graph.build, Graph.extend, BuildStep.apply, Graph.addNode, Graph.addLinkAt,
      Graph.resolveIndex, Graph.position?, Graph.checkWeight, Scalar.isMagnitude, Graph.empty,
      Graph.ids, Bind.bind, Except.bind, Pure.pure, Except.pure]
  obtain ⟨s₀, hstart, hbounded⟩ := speed_bounded check_default_real hgraph 0
  obtain ⟨hconsistent, hfree⟩ := consistent_of_start hbuilt hstart
  -- wherever the first node has been placed, the pointer is pressed there
  obtain ⟨node, hnode, hstyle⟩ : ∃ node ∈ s₀.scene.simulation.graph.nodes,
      s₀.scene.style = (Config.default : Config ℝ).style.style := by
    obtain ⟨-, simulation, hscatter, rfl⟩ := start_eq_ok hstart
    obtain ⟨-, -, hplaced⟩ := Simulation.scatter_eq_ok hscatter
    have hkept := Graph.ids_eq_of_shape_eq (hplaced.shape_eq Simulation.keepsName_placedAt)
    have hmem : (⟨"a"⟩ : NodeId) ∈ simulation.graph.ids := by
      rw [hkept.trans hids]
      exact List.mem_cons_self
    obtain ⟨node, hnode, -⟩ := List.mem_map.1 hmem
    exact ⟨node, Array.mem_toList_iff.1 hnode, rfl⟩
  have hsize : (0 : ℝ) ≤ 40.0 := by norm_num
  obtain ⟨id, hheld⟩ := exists_held?_press hconsistent hfree (hstyle ▸ hsize) (hstyle ▸ hsize) hnode
  refine ⟨check_default_real, hgraph, s₀, node.position, id, hstart, hheld, ?_⟩
  intro s
  have hruns : Runs Recording.surface 0 (s, .blank) (s, .blank) := .none _
  obtain ⟨hslow, hnear⟩ := hbounded _ Recording.surface 0 .blank s .blank hruns
  have hspeed : (0.9 : ℝ) * 100.0 * 1.0 / (1 - 0.9) = 900 := by norm_num
  have hway : (100.0 : ℝ) * 1.0 ^ 2 / (1 - 0.9) = 1000 := by norm_num
  refine ⟨hruns, fun node hn => (hslow node hn).trans_eq hspeed, fun i node hn hfree => ?_⟩
  obtain ⟨node', hn', hle⟩ := hnear i node hn hfree
  exact ⟨node', hn', hle.trans_eq hway⟩

end Session

end NeighborGraph
