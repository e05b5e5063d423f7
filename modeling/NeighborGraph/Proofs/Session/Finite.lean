import NeighborGraph.Proofs.Document.Requests
import NeighborGraph.Proofs.Layout.Bounded
import NeighborGraph.Proofs.Session.Undisturbed

/-!
# Sessions that stay finite

A configuration that passes its check bounds each of its numbers alone. If the greatest force is
moderate for the time of a step, all positions and velocities of a session stay finite however long
it ticks, as long as no pointer touches it (`Session.finite_of_moderate`). Steps that take very long
overflow a position with the first tick (`Session.infinite_of_longStep`).
-/

namespace NeighborGraph

open Double

/-! ## What a checked configuration satisfies -/

section Check

variable {α : Type} [Scalar α]

/-- Settings that pass their check meet all requirements. -/
theorem Requirements.holds_of_check {rs : Requirements α} {part? : Option String}
    (h : rs.check part? = .ok ()) : ∀ r ∈ rs, r.2.1.holds r.2.2 = true := by
  intro r hr
  unfold Requirements.check at h
  split at h
  · cases h
  · next hnone =>
    have := List.find?_eq_none.1 hnone r hr
    simpa using this

/-- Settings that meet all requirements pass their check. -/
theorem Requirements.check_of_holds {rs : Requirements α}
    (h : ∀ r ∈ rs, r.2.1.holds r.2.2 = true) (part? : Option String) : rs.check part? = .ok () := by
  unfold check
  split
  · next hfind =>
    have hholds := h _ (List.mem_of_find?_eq_some hfind)
    exact absurd (List.find?_some hfind) (by simp [hholds])
  · rfl

/-- In a configuration that passes its check, the settings of the layout and of the simulation meet
their requirements. -/
theorem Config.sections_of_check {config : Config α} (h : config.check = .ok ()) :
    (∀ r ∈ config.layout.requirements, r.2.1.holds r.2.2 = true) ∧
      ∀ r ∈ config.simulation.requirements, r.2.1.holds r.2.2 = true := by
  obtain ⟨_, hlayout, h⟩ := Except.bind_eq_ok.1 h
  obtain ⟨_, hsimulation, -⟩ := Except.bind_eq_ok.1 h
  exact ⟨Requirements.holds_of_check hlayout, Requirements.holds_of_check hsimulation⟩

end Check

namespace Config

variable {config : Config Float}

/-- A configuration that passes its check has a positive greatest force, time of a step and
tolerance, and a damping that is a fraction. -/
theorem isPositive_of_check (h : config.check = .ok ()) :
    Scalar.isPositive config.layout.forces.maxForce = true ∧
      Requirement.fraction.holds config.layout.forces.damping = true ∧
      Scalar.isPositive config.simulation.timeStep = true ∧
      Scalar.isPositive config.simulation.epsilon = true := by
  obtain ⟨hlayout, hsimulation⟩ := sections_of_check h
  refine ⟨hlayout ("max_force", .positive, config.layout.forces.maxForce) ?_,
    hlayout ("damping", .fraction, config.layout.forces.damping) ?_,
    hsimulation ("time_step", .positive, config.simulation.timeStep) ?_,
    hsimulation ("epsilon", .positive, config.simulation.epsilon) ?_⟩ <;>
    simp [LayoutConfig.requirements, ForceParameters.requirements, SimulationConfig.requirements]

end Config

namespace Session

variable {config : Config Float}

/-- A session starts on a loaded graph with a checked configuration. -/
theorem exists_start (hconfig : config.check = .ok ()) {text : String} {graph : Graph Float}
    (hload : Graph.read text = .ok graph) (spareSeed : UInt64) :
    ∃ s₀, start config spareSeed graph = .ok s₀ := by
  have hcheck := (Graph.built_of_read hload).wellFormed.check
  obtain ⟨-, hstart⟩ | ⟨fault, hfault, -⟩ := start_of_check hcheck config spareSeed
  · exact hstart
  · rw [hconfig] at hfault
    cases hfault

/-- The simulation of a session starts with the forces of the configuration, and with nodes that are
within any bound. -/
theorem start_bounded {spareSeed : UInt64} {graph : Graph Float} {s₀ : Session Float}
    (h : start config spareSeed graph = .ok s₀) (k : ℤ) :
    s₀.timeStep = config.simulation.timeStep ∧ s₀.epsilon = config.simulation.epsilon ∧
      s₀.scene.simulation.forces = config.layout.forces ∧ s₀.scene.simulation.motion? = none ∧
      ∀ node ∈ s₀.scene.simulation.graph.nodes, node.Bounded k := by
  obtain ⟨-, simulation, hscatter, rfl⟩ := start_eq_ok h
  obtain ⟨hforces, hmotion, -⟩ := Simulation.nodes_of_scatter_eq_ok hscatter
  exact ⟨rfl, rfl, hforces, hmotion, Simulation.bounded_scatter hscatter k⟩

/-- With a moderate force, any number of steps keeps all nodes within a bound. -/
theorem bounded_stepped (hconfig : config.check = .ok ())
    (hmoderate : config.layout.forces.Moderate config.simulation.timeStep) {spareSeed : UInt64}
    {graph : Graph Float} {s₀ : Session Float} (h : start config spareSeed graph = .ok s₀) :
    ∃ e t k, config.layout.forces.Bounds config.simulation.timeStep e t k ∧
      ∀ n, ∀ node ∈ (s₀.scene.simulation.stepped s₀.timeStep n).graph.nodes, node.Bounded k := by
  obtain ⟨hforce, hdamping, htime, -⟩ := Config.isPositive_of_check hconfig
  obtain ⟨e, t, k, hbounds⟩ := ForceParameters.exists_bounds hforce hdamping htime hmoderate
  obtain ⟨htimeStep, -, hforces, -, hnodes⟩ := start_bounded h k
  refine ⟨e, t, k, hbounds, fun n => ?_⟩
  have hstep : ∀ sim : Simulation Float,
      sim.forces = config.layout.forces ∧ (∀ node ∈ sim.graph.nodes, node.Bounded k) →
      (sim.step s₀.timeStep).forces = config.layout.forces ∧
        ∀ node ∈ (sim.step s₀.timeStep).graph.nodes, node.Bounded k := by
    rintro sim ⟨hsim, hbounded⟩
    refine ⟨hsim, Simulation.bounded_step (e := e) (t := t) ?_ hbounded⟩
    rwa [hsim, htimeStep, toMagnitude_of_isPositive htime]
  exact (Simulation.of_stepped hstep ⟨hforces, hnodes⟩ n).2

/-- A checked configuration with a moderate force, and a graph that has been loaded: a session
starts on it, and whatever ticks and runs are made without a pointer, all nodes have finite
positions and velocities. -/
theorem finite_of_moderate (hconfig : config.check = .ok ())
    (hmoderate : config.layout.forces.Moderate config.simulation.timeStep) {text : String}
    {graph : Graph Float} (hload : Graph.read text = .ok graph) (spareSeed : UInt64) :
    ∃ s₀, start config spareSeed graph = .ok s₀ ∧
      ∀ ops : List (Operation Float), (∀ op ∈ ops, op.byPointer = false) →
        ∀ node ∈ (s₀.after ops).scene.simulation.graph.nodes,
          node.position.isFinite = true ∧ node.velocity.isFinite = true := by
  obtain ⟨s₀, hstart⟩ := exists_start hconfig hload spareSeed
  refine ⟨s₀, hstart, fun ops hops node hnode => ?_⟩
  obtain ⟨_, _, k, -, hbounded⟩ := bounded_stepped hconfig hmoderate hstart
  obtain ⟨n, hn⟩ := stepped_after s₀ hops
  rw [hn.simulation] at hnode
  obtain ⟨hposition, hvelocity⟩ := hbounded n node hnode
  exact ⟨hposition, (Point.isFinite_iff _).2 ⟨hvelocity.x.isFinite, hvelocity.y.isFinite⟩⟩

/-- The usual configuration is moderate. -/
theorem moderate_default :
    (LayoutConfig.default : LayoutConfig Float).forces.Moderate
      (SimulationConfig.default : SimulationConfig Float).timeStep := by
  have hforce : value (100.0 : Float) ≤ 2 ^ (500 : ℤ) := by
    rw [← value_greatestPlain.2]
    exact (le_iff (by decide +kernel) value_greatestPlain.1).1 (by decide +kernel)
  have htime : value (1.0 : Float) ≤ 1 := by
    obtain ⟨hf, hv⟩ := value_ofNat (n := 1) (by decide)
    rw [Nat.cast_one] at hv
    rw [← hv]
    exact (le_iff (by decide +kernel) hf).1 (by decide +kernel)
  have hle : value (100.0 : Float) * max 1 (value (1.0 : Float)) ^ 2 ≤ 2 ^ (900 : ℤ) := by
    rw [max_eq_left htime, one_pow, mul_one]
    exact hforce.trans (zpow_le_zpow_right₀ one_le_two (by decide))
  exact ⟨hle⟩

/-- With the usual configuration, a loaded graph of one node stays finite over a tick, a long run
and another tick. -/
theorem finite_of_moderate_default :
    let text := "\x7b\"nodes\": [\x7b\"name\": \"A\", \"id\": \"a\"\x7d]\x7d"
    let graph : Graph Float := ⟨#[⟨⟨"a"⟩, "A", .origin, .origin, false⟩], #[]⟩
    let ops : List (Operation Float) := [.tick Recording.surface .blank,
      .run Recording.surface 100000 .blank, .tick Recording.surface .blank]
    Config.check (Config.default : Config Float) = .ok () ∧ Graph.read text = .ok graph ∧
      ∃ s₀, start .default 0 graph = .ok s₀ ∧
        ∀ node ∈ (s₀.after ops).scene.simulation.graph.nodes,
          node.position.isFinite = true ∧ node.velocity.isFinite = true := by
  intro text graph ops
  have hload : Graph.read text = .ok graph := Except.toOption_eq_some.1 (by decide +kernel)
  have hcheck : Config.check (Config.default : Config Float) = .ok () :=
    Except.toOption_eq_some.1 (by decide +kernel)
  obtain ⟨s₀, hstart, hfinite⟩ := finite_of_moderate hcheck moderate_default hload 0
  exact ⟨hcheck, hload, s₀, hstart, hfinite ops (by simp [ops, Operation.byPointer])⟩

/-- A step that takes very long, with a pull to the center: the first tick takes the one node of a
loaded graph infinitely far away. -/
theorem infinite_of_longStep :
    let text := "\x7b\"nodes\": [\x7b\"name\": \"A\", \"id\": \"a\"\x7d]\x7d"
    let graph : Graph Float := ⟨#[⟨⟨"a"⟩, "A", .origin, .origin, false⟩], #[]⟩
    let config : Config Float :=
      { Config.default with
        layout := { LayoutConfig.default with
          forces := { ForceParameters.default with gravity := 1 } }
        simulation := { SimulationConfig.default with timeStep := 1e308, seed := some 1 } }
    config.check = .ok () ∧ Graph.read text = .ok graph ∧
      ∃ s₀, start config 0 graph = .ok s₀ ∧
        ∃ node ∈ (s₀.after [.tick Recording.surface .blank]).scene.simulation.graph.nodes,
          node.position.isFinite = false := by
  intro text graph config
  have hload : Graph.read text = .ok graph := Except.toOption_eq_some.1 (by decide +kernel)
  have hcheck : config.check = .ok () := Except.toOption_eq_some.1 (by decide +kernel)
  have hnodes : ((start config 0 graph).map fun s₀ =>
      (s₀.after [.tick Recording.surface .blank]).scene.simulation.graph.nodes.any
        fun node => !node.position.isFinite).toOption = some true := by decide +kernel
  obtain ⟨s₀, hstart⟩ := exists_start hcheck hload 0
  rw [hstart] at hnodes
  obtain ⟨i, hi, hnode⟩ := Array.any_eq_true.1 (Option.some.inj hnodes)
  exact ⟨hcheck, hload, s₀, hstart, _, Array.getElem_mem hi, by simpa using hnode⟩

end Session

end NeighborGraph
