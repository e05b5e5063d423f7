import NeighborGraph.Proofs.Layout.Motion
import NeighborGraph.Proofs.Scalar.Extremes
import NeighborGraph.Proofs.Session.Finite

/-!
# Runs that come to rest

A run ends because the motion has died down when the running maxima of a step are small. A running
maximum hides undefined operands, so that in general a way that counts as short is either short or
undefined (`Session.settled_of_run`); with a moderate force all ways are finite, and then the
displacement of the summary bounds them all. Steps that take very long come to rest with a node that
is nowhere (`Session.unsettled_of_longStep`).
-/

namespace NeighborGraph

open Double

namespace Simulation

/-- The displacement of a step bounds the ways of all free nodes, except for those that are
undefined. -/
theorem way_le_displacement {sim : Simulation Float} {timeStep : Float} {motion : Motion Float}
    (h : (sim.step timeStep).motion? = some motion) {i : Nat} {node : Node Float}
    {force : Point Float} (hn : sim.graph.nodes[i]? = some node)
    (hf : sim.netForces[i]? = some force) (hfree : node.pinned = false) :
    let way := (node.stride sim.forces (Scalar.toMagnitude timeStep) force).length
    way.isNaN = true ∨ way ≤ motion.displacement := by
  have hmotion : motion.displacement = greatestFree
      (fun node force => (node.stride sim.forces (Scalar.toMagnitude timeStep) force).length)
      sim.graph.nodes sim.netForces :=
    congrArg Motion.displacement (Option.some.inj h).symm
  rw [hmotion, greatestFree_eq_foldl]
  exact (isExtreme_foldl_greater 0 _).bound _
    (List.mem_cons_of_mem _ (mem_freeValues hn hf hfree))

end Simulation

namespace Session

variable {config : Config Float}

/-- Every node of a loaded graph is free until a pointer takes it. -/
theorem free_stepped {text : String} {graph : Graph Float} (hload : Graph.read text = .ok graph)
    {spareSeed : UInt64} {s₀ : Session Float} (h : start config spareSeed graph = .ok s₀)
    (n : Nat) :
    ∀ node ∈ (s₀.scene.simulation.stepped s₀.timeStep n).graph.nodes, node.pinned = false := by
  refine Simulation.of_stepped (P := fun sim => ∀ node ∈ sim.graph.nodes, node.pinned = false)
    (fun _ => Simulation.free_step) ?_ n
  obtain ⟨-, simulation, hscatter, rfl⟩ := start_eq_ok h
  obtain ⟨-, -, hplaced⟩ := Simulation.scatter_eq_ok hscatter
  intro node hnode
  obtain ⟨node', hnode', position, rfl⟩ := hplaced.mem hnode
  exact (Graph.built_of_read hload).pinned_eq node' hnode'

/-- A run that ends because the motion has died down has come from the beginning by steps, at least
one, and the last step was a short one. -/
theorem exists_last_step {s₀ : Session Float} (hmotion : s₀.scene.simulation.motion? = none)
    {ops : List (Operation Float)} (hops : ∀ op ∈ ops, op.byPointer = false) {σ : Type}
    {surface : Surface Float σ} {budget : Nat} {state : σ} {q : Session Float × σ}
    {summary : RunSummary Float}
    (hrun : (s₀.after ops).run surface budget state = (q, .ok summary))
    (hreason : summary.reason = .converged) :
    ∃ n motion, q.1.scene.simulation = s₀.scene.simulation.stepped s₀.timeStep (n + 1) ∧
      q.1.scene.simulation.motion? = some motion ∧
      summary.displacement? = some motion.displacement ∧ motion.displacement < s₀.epsilon := by
  have hsession : q.1 = s₀.after (ops ++ [.run surface budget state]) := by
    rw [after_append]
    exact (congrArg (·.1.1) hrun).symm
  have hall : ∀ op ∈ ops ++ [.run surface budget state], op.byPointer = false :=
    List.forall_mem_append.2 ⟨hops, List.forall_mem_singleton.2 rfl⟩
  obtain ⟨n, hn⟩ := stepped_after s₀ hall
  rw [← hsession] at hn
  have hsummary : summary.displacement? = q.1.scene.simulation.displacement? ∧
      q.1.isConverged = true := by
    obtain ⟨k, r, reason, -, -, hstop, he⟩ | ⟨_, _, _, _, -, -, -, -, -, he⟩ :=
      runFrom_cases surface 0 budget (s₀.after ops) state <;>
    rw [run, he] at hrun <;> cases hrun
    exact ⟨rfl, ((stop?_eq_some hstop).2.1.1 hreason).2⟩
  obtain ⟨hdisplacement, hconverged⟩ := hsummary
  unfold isConverged Simulation.isConverged at hconverged
  cases hm : q.1.scene.simulation.motion? with
  | none =>
    rw [hm] at hconverged
    cases hconverged
  | some motion =>
    rw [hm, hn.epsilon] at hconverged
    have hshort := of_decide_eq_true (Bool.and_eq_true_iff.1 hconverged).1
    rw [Simulation.displacement?, hm] at hdisplacement
    cases n with
    | zero =>
      rw [hn.simulation] at hm
      rw [show s₀.scene.simulation.stepped s₀.timeStep 0 = s₀.scene.simulation from rfl,
        hmotion] at hm
      cases hm
    | succ n => exact ⟨n, motion, hn.simulation, rfl, hdisplacement, hshort⟩

/-- A run without a pointer that ends because the motion has died down, on a loaded graph: the
displacement of its summary is below the threshold, and each node is free and has come to where it
is by a way in the last step that is at most that displacement, or undefined. With a moderate force
no way is undefined: then all positions are finite, and all ways are numbers below the threshold. -/
theorem settled_of_run (hconfig : config.check = .ok ()) {text : String} {graph : Graph Float}
    (hload : Graph.read text = .ok graph) {spareSeed : UInt64} {s₀ : Session Float}
    (hstart : start config spareSeed graph = .ok s₀) {ops : List (Operation Float)}
    (hops : ∀ op ∈ ops, op.byPointer = false) {σ : Type} {surface : Surface Float σ} {budget : Nat}
    {state : σ} {q : Session Float × σ} {summary : RunSummary Float}
    (hrun : (s₀.after ops).run surface budget state = (q, .ok summary))
    (hreason : summary.reason = .converged) :
    ∃ (n : Nat) (displacement : Float),
      let before := s₀.scene.simulation.stepped config.simulation.timeStep n
      q.1.scene.simulation = before.step config.simulation.timeStep ∧
      summary.displacement? = some displacement ∧ displacement < config.simulation.epsilon ∧
      ∀ (i : Nat) (node' : Node Float), q.1.scene.simulation.graph.nodes[i]? = some node' →
        ∃ (node : Node Float) (force : Point Float), before.graph.nodes[i]? = some node ∧
          before.netForces[i]? = some force ∧ node.pinned = false ∧
          node' = node.advance config.layout.forces config.simulation.timeStep force ∧
          let way :=
            (node.stride config.layout.forces config.simulation.timeStep force).length
          (way.isNaN = true ∨ way ≤ displacement) ∧
          (config.layout.forces.Moderate config.simulation.timeStep →
            node'.position.isFinite = true ∧ way.isFinite = true ∧ way ≤ displacement ∧
              way < config.simulation.epsilon) := by
  obtain ⟨-, -, htime, -⟩ := Config.isPositive_of_check hconfig
  obtain ⟨htimeStep, hepsilon, hforces, hmotion, -⟩ := start_bounded hstart 0
  obtain ⟨n, motion, hsimulation, hm, hdisplacement, hshort⟩ :=
    exists_last_step hmotion hops hrun hreason
  rw [htimeStep] at hsimulation
  rw [hepsilon] at hshort
  refine ⟨n, motion.displacement, hsimulation, hdisplacement, hshort, fun i node' hnode' => ?_⟩
  rw [hsimulation] at hm hnode'
  have hsteppedForces : (s₀.scene.simulation.stepped config.simulation.timeStep n).forces =
      config.layout.forces := (Simulation.forces_stepped ..).trans hforces
  obtain ⟨node, force, hn, hf, hnode⟩ := Simulation.exists_of_getElem?_step
    (s₀.scene.simulation.stepped config.simulation.timeStep n) hnode'
  have hfree : node.pinned = false := by
    rw [← htimeStep] at hn
    exact free_stepped hload hstart n node (Array.mem_of_getElem? hn)
  have hway := Simulation.way_le_displacement hm hn hf hfree
  rw [hsteppedForces, toMagnitude_of_isPositive htime] at hnode hway
  refine ⟨node, force, hn, hf, hfree, hnode, hway, fun hmoderate => ?_⟩
  obtain ⟨e, t, k, hbounds, hbounded⟩ := bounded_stepped hconfig hmoderate hstart
  rw [htimeStep] at hbounded
  have hstride := Node.within_stride hbounds (hbounded n node (Array.mem_of_getElem? hn)).velocity
    force
  have hfinite := (hstride.mono (by decide)).length.isFinite
  have hle := hway.resolve_left (by rw [isNaN_of_isFinite hfinite]; exact Bool.false_ne_true)
  have hposition := (hbounded (n + 1) node' (Array.mem_of_getElem? hnode')).position
  exact ⟨hposition, hfinite, hle, trans_lt hle hshort⟩

/-- A run of the usual configuration on a loaded graph of one node comes to rest, with a
displacement that bounds the way of the node. -/
theorem settled_of_run_singleNode :
    let text := "\x7b\"nodes\": [\x7b\"name\": \"A\", \"id\": \"a\"\x7d]\x7d"
    let graph : Graph Float := ⟨#[⟨⟨"a"⟩, "A", .origin, .origin, false⟩], #[]⟩
    ∃ s₀, start .default 0 graph = .ok s₀ ∧ Graph.read text = .ok graph ∧
      ∃ q summary, s₀.run Recording.surface 5 .blank = (q, .ok summary) ∧
        summary.reason = .converged ∧ ∃ displacement, summary.displacement? = some displacement ∧
        displacement < (0.01 : Float) ∧
        ∀ node ∈ q.1.scene.simulation.graph.nodes, node.position.isFinite = true := by
  intro text graph
  have hload : Graph.read text = .ok graph := Except.toOption_eq_some.1 (by decide +kernel)
  have hcheck : Config.check (Config.default : Config Float) = .ok () :=
    Except.toOption_eq_some.1 (by decide +kernel)
  have hreason : ((start .default 0 graph).toOption.bind fun s₀ =>
      (s₀.run Recording.surface 5 .blank).2.toOption.map (·.reason)) = some .converged := by
    decide +kernel
  obtain ⟨s₀, hstart⟩ := exists_start hcheck hload 0
  rw [hstart] at hreason
  obtain ⟨summary, hsummary, hreason⟩ := Option.map_eq_some_iff.1 hreason
  have hrun : (s₀.after []).run Recording.surface 5 .blank =
      ((s₀.run Recording.surface 5 .blank).1, .ok summary) :=
    Prod.ext rfl (Except.toOption_eq_some.1 hsummary)
  obtain ⟨n, displacement, -, hdisplacement, hshort, hnodes⟩ :=
    settled_of_run hcheck hload hstart (List.forall_mem_nil _) hrun hreason
  refine ⟨s₀, hstart, hload, _, summary, hrun, hreason, displacement, hdisplacement, hshort, ?_⟩
  intro node hnode
  obtain ⟨i, hi⟩ := Array.mem_iff_getElem?.1 hnode
  obtain ⟨_, _, -, -, -, -, -, hmoderate⟩ := hnodes i node hi
  exact (hmoderate moderate_default).1

/-- Steps that take very long, with a pull to the center: a run on a loaded graph of one node comes
to rest although the node is nowhere. -/
theorem unsettled_of_longStep :
    let text := "\x7b\"nodes\": [\x7b\"name\": \"A\", \"id\": \"a\"\x7d]\x7d"
    let graph : Graph Float := ⟨#[⟨⟨"a"⟩, "A", .origin, .origin, false⟩], #[]⟩
    let config : Config Float :=
      { Config.default with
        layout := { LayoutConfig.default with
          forces := { ForceParameters.default with gravity := 1 } }
        simulation := { SimulationConfig.default with timeStep := 1e308, seed := some 1 } }
    config.check = .ok () ∧ Graph.read text = .ok graph ∧
      ∃ s₀, start config 0 graph = .ok s₀ ∧
        ∃ q summary, s₀.run Recording.surface 10 .blank = (q, .ok summary) ∧
          summary.reason = .converged ∧
          ∃ node ∈ q.1.scene.simulation.graph.nodes, node.position.x.isNaN = true := by
  intro text graph config
  have hload : Graph.read text = .ok graph := Except.toOption_eq_some.1 (by decide +kernel)
  have hcheck : config.check = .ok () := Except.toOption_eq_some.1 (by decide +kernel)
  have hreason : ((start config 0 graph).toOption.bind fun s₀ =>
      (s₀.run Recording.surface 10 .blank).2.toOption.map (·.reason)) = some .converged := by
    decide +kernel
  have hnodes : ((start config 0 graph).map fun s₀ =>
      (s₀.run Recording.surface 10 .blank).1.1.scene.simulation.graph.nodes.any
        fun node => node.position.x.isNaN).toOption = some true := by decide +kernel
  obtain ⟨s₀, hstart⟩ := exists_start hcheck hload 0
  rw [hstart] at hreason hnodes
  obtain ⟨summary, hsummary, hreason⟩ := Option.map_eq_some_iff.1 hreason
  obtain ⟨i, hi, hnode⟩ := Array.any_eq_true.1 (Option.some.inj hnodes)
  exact ⟨hcheck, hload, s₀, hstart, _, summary,
    Prod.ext rfl (Except.toOption_eq_some.1 hsummary), hreason, _, Array.getElem_mem hi, hnode⟩

end Session

end NeighborGraph
