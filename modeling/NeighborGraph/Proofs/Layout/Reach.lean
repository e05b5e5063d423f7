import NeighborGraph.Proofs.Layout.Settling

/-!
# How far a node can go under a steady force

`Node.reach` is a sum of a geometric series: what a node has of its velocity, and what a steady
force adds to it in each step, damped once more with every step that follows. In exact arithmetic no
way of a node under such a force is longer (`Node.length_stride_advanced`). The force that enters
the reach after a step is the one that acts in the step after it, so that nothing goes far in the
next step of a converged layout (`Simulation.reach_bounds_strides`).
-/

namespace NeighborGraph

/-- The node after a number of steps under a force that stays as it is. -/
def Node.advanced {α : Type} [Scalar α] (node : Node α) (p : ForceParameters α) (timeStep : α)
    (force : Point α) : Nat → Node α
  | 0 => node
  | n + 1 => (node.advanced p timeStep force n).advance p timeStep force

/-- Parameters that pass their check have a damping below one that is not negative. -/
theorem ForceParameters.damping_of_check {p : ForceParameters ℝ} {part? : Option String}
    (h : p.requirements.check part? = .ok ()) : 0 ≤ p.damping ∧ p.damping < 1 := by
  have hdamping := Requirements.holds_of_check h ("damping", .fraction, p.damping)
    (by simp [ForceParameters.requirements])
  exact Requirement.holds_fraction_iff.1 hdamping

namespace Node

variable {p : ForceParameters ℝ} {timeStep : ℝ} {node : Node ℝ} (force : Point ℝ)

/-- Steps neither pin a node nor free one. -/
theorem pinned_advanced (n : ℕ) :
    (node.advanced p timeStep force n).pinned = node.pinned := by
  induction n with
  | zero => rfl
  | succ n ih => exact (pinned_advance ..).trans ih

/-- Under a steady force the velocity of a node stays below the sum of the geometric series. -/
theorem length_drive_advanced (hfree : node.pinned = false) (hdamping : 0 ≤ p.damping)
    (hlt : p.damping < 1) (htime : 0 ≤ timeStep) (n : ℕ) :
    ((node.advanced p timeStep force n).drive p timeStep force).length * (1 - p.damping) ≤
      node.velocity.length + (force.clampLength p.maxForce).length * timeStep := by
  induction n with
  | zero =>
    refine le_trans ?_ (length_drive_le force htime)
    exact mul_le_of_le_one_right (Point.length_nonneg _) (by linarith)
  | succ n ih =>
    set before := node.advanced p timeStep force n with hbefore
    have hfree' : before.pinned = false := by rw [hbefore, pinned_advanced, hfree]
    have hdrive : ((before.advance p timeStep force).drive p timeStep force).length ≤
        (before.drive p timeStep force).length * p.damping +
          (force.clampLength p.maxForce).length * timeStep := by
      rw [← length_velocity_advance force hfree' hdamping]
      exact length_drive_le force htime
    -- the bound is that of the whole series, which damping and one more push give back
    calc ((before.advance p timeStep force).drive p timeStep force).length * (1 - p.damping)
        ≤ ((before.drive p timeStep force).length * p.damping +
            (force.clampLength p.maxForce).length * timeStep) * (1 - p.damping) :=
          mul_le_mul_of_nonneg_right hdrive (sub_nonneg.2 hlt.le)
      _ ≤ node.velocity.length + (force.clampLength p.maxForce).length * timeStep :=
          Simulation.damped_add_mul_le hdamping hlt (Point.length_nonneg _) ih

/-- The reach of a node in exact arithmetic. -/
theorem reach_eq :
    node.reach p timeStep force = (node.velocity.length * timeStep +
      (force.clampLength p.maxForce).length * timeStep ^ 2) / (1 - p.damping) := by
  rw [reach, Scalar.one_real, sq, ← mul_assoc]

/-- No way under a steady force is longer than the reach. -/
theorem length_stride_advanced (hfree : node.pinned = false) (hdamping : 0 ≤ p.damping)
    (hlt : p.damping < 1) (htime : 0 ≤ timeStep) (n : ℕ) :
    ((node.advanced p timeStep force n).stride p timeStep force).length ≤
      node.reach p timeStep force := by
  rw [stride, Point.length_scale _ htime, reach_eq, le_div_iff₀ (sub_pos.2 hlt)]
  calc ((node.advanced p timeStep force n).drive p timeStep force).length * timeStep *
        (1 - p.damping)
      = ((node.advanced p timeStep force n).drive p timeStep force).length * (1 - p.damping) *
          timeStep := by ring
    _ ≤ (node.velocity.length + (force.clampLength p.maxForce).length * timeStep) * timeStep :=
        mul_le_mul_of_nonneg_right (length_drive_advanced force hfree hdamping hlt htime n) htime
    _ = node.velocity.length * timeStep +
        (force.clampLength p.maxForce).length * timeStep ^ 2 := by ring

end Node

namespace Simulation

variable {sim : Simulation ℝ} {timeStep : ℝ}

/-- In exact arithmetic, with parameters that pass their check: however many steps a free node makes
under a force that stays as it is, none of its ways is longer than its reach. What a step records
is at least the reach of each free node under the force that acts on it in the next step, and if the
layout counts as converged, the next step moves every free node by less than the threshold. -/
theorem reach_bounds_strides {part? : Option String}
    (hvalid : sim.forces.requirements.check part? = .ok ()) (htime : 0 ≤ timeStep) :
    let p := sim.forces
    let after := sim.step timeStep
    (∀ (node : Node ℝ) (force : Point ℝ), node.pinned = false → ∀ n,
      ((node.advanced p timeStep force n).stride p timeStep force).length ≤
        (node.velocity.length * timeStep +
          (force.clampLength p.maxForce).length * timeStep ^ 2) / (1 - p.damping)) ∧
    (∃ motion, after.motion? = some motion ∧ ∀ (i : ℕ) (node : Node ℝ),
      after.graph.nodes[i]? = some node → node.pinned = false →
      ∃ force, after.netForces[i]? = some force ∧
        (after.step timeStep).graph.nodes[i]? = some (node.advanced p timeStep force 1) ∧
        (node.velocity.length * timeStep +
          (force.clampLength p.maxForce).length * timeStep ^ 2) / (1 - p.damping) ≤
            motion.reach) ∧
    ∀ epsilon, after.isConverged epsilon = true → ∀ (i : ℕ) (node : Node ℝ),
      after.graph.nodes[i]? = some node → node.pinned = false →
      ∃ node', (after.step timeStep).graph.nodes[i]? = some node' ∧
        node'.position.distance node.position < epsilon := by
  intro p after
  obtain ⟨hdamping, hlt⟩ := ForceParameters.damping_of_check hvalid
  have hnext : ∀ {i : ℕ} {node : Node ℝ} {force : Point ℝ}, after.graph.nodes[i]? = some node →
      after.netForces[i]? = some force →
      (after.step timeStep).graph.nodes[i]? = some (node.advanced p timeStep force 1) := by
    intro i node force hn hf
    have hstep := getElem?_step hn hf timeStep
    rwa [Scalar.toMagnitude_of_nonneg htime] at hstep
  obtain ⟨motion, hmotion⟩ : ∃ motion, after.motion? = some motion := ⟨_, rfl⟩
  refine ⟨fun node force hfree n => ?_, ⟨motion, hmotion, fun i node hn hfree => ?_⟩,
    fun epsilon hconverged i node hn hfree => ?_⟩
  · rw [← Node.reach_eq]
    exact Node.length_stride_advanced force hfree hdamping hlt htime n
  · obtain ⟨force, hf⟩ := exists_getElem?_netForces hn
    refine ⟨force, hf, hnext hn hf, ?_⟩
    have hreach := reach_le_motion hmotion hn hf hfree
    rw [Scalar.toMagnitude_of_nonneg htime] at hreach
    rwa [← Node.reach_eq]
  · obtain ⟨force, hf⟩ := exists_getElem?_netForces hn
    refine ⟨_, hnext hn hf, ?_⟩
    have hreach := reach_lt_of_isConverged hconverged hn hf hfree
    rw [Scalar.toMagnitude_of_nonneg htime] at hreach
    refine lt_of_le_of_lt ?_ hreach
    have hstride := Node.length_stride_advanced force hfree hdamping hlt htime 0
    rw [Node.stride, Point.length_scale _ htime] at hstride
    exact (Node.distance_advance force hfree htime).le.trans hstride

/-- On a single node without links only the pull to the center acts. -/
theorem netForces_single {sim : Simulation ℝ} {node : Node ℝ} (hnodes : sim.graph.nodes = #[node])
    (hlinks : sim.graph.links = #[]) (hgravity : 0 < sim.forces.gravity) :
    sim.netForces = #[sim.forces.centering sim.center node.position] := by
  simp [netForces, Graph.netForces, Graph.mutualForces, Graph.nodeCount, pairsBelow, hnodes, hlinks,
    hgravity, Point.origin, ForceParameters.centering, Point.scale]

/-- A node that is drawn to the center loses half of its speed with each step. The first step ends
converged, and under a force as strong as the greatest one no way of a node at speed one is longer
than four. -/
theorem reach_bounds_strides_drawn :
    let sim : Simulation ℝ := ⟨⟨0, 0, 0, 1 / 2, 1, 1, 1 / 2⟩, Generator.ofSeed 0,
      ⟨#[⟨⟨"a"⟩, "A", ⟨1, 0⟩, ⟨0, 0⟩, false⟩], #[]⟩, ⟨0, 0⟩, none, 0⟩
    let moving : Node ℝ := ⟨⟨"b"⟩, "B", ⟨0, 0⟩, ⟨1, 0⟩, false⟩
    sim.forces.requirements.check none = .ok () ∧ (0 : ℝ) ≤ 1 ∧
      (∀ n, ((moving.advanced sim.forces 1 ⟨1, 0⟩ n).stride sim.forces 1 ⟨1, 0⟩).length ≤ 4) ∧
      (sim.step 1).isConverged 2 = true ∧
      ∃ node', ((sim.step 1).step 1).graph.nodes[0]? = some node' ∧
        node'.position.distance ⟨1 / 2, 0⟩ < 2 := by
  intro sim moving
  have hvalid : sim.forces.requirements.check none = .ok () := by
    have hbounds : (0 : ℝ) ≤ 1 / 2 ∧ (1 / 2 : ℝ) < 1 := by norm_num
    refine Requirements.check_of_holds ?_ none
    simpa [sim, ForceParameters.requirements] using hbounds
  obtain ⟨hstride, -, hnext⟩ := @reach_bounds_strides sim 1 none hvalid zero_le_one
  have hclamp : ∀ x : ℝ, |x| ≤ 1 → (⟨x, 0⟩ : Point ℝ).clampLength 1 = ⟨x, 0⟩ := by
    intro x hx
    exact Point.clampLength_of_le _ (by rwa [Point.length_mk_zero])
  have hhalf := hclamp (-2⁻¹) (by norm_num [abs_of_pos])
  have hquarter := hclamp (-4⁻¹) (by norm_num [abs_of_pos])
  have hforces : sim.netForces = #[⟨-2⁻¹, 0⟩] := by
    have hnode : sim.graph.nodes = #[⟨⟨"a"⟩, "A", ⟨1, 0⟩, ⟨0, 0⟩, false⟩] := rfl
    rw [netForces_single hnode rfl (by norm_num [sim])]
    norm_num [sim, ForceParameters.centering, Point.scale]
  have hnodes : (sim.step 1).graph.nodes =
      #[⟨⟨"a"⟩, "A", ⟨1 / 2, 0⟩, ⟨-4⁻¹, 0⟩, false⟩] := by
    have hway : (1 : ℝ) + -2⁻¹ = 2⁻¹ ∧ (2 : ℝ)⁻¹ * 2⁻¹ = 4⁻¹ := by norm_num
    change Array.zipWith _ sim.graph.nodes sim.netForces = _
    rw [hforces]
    simpa [sim, Node.advance, Node.stride, Node.drive, hhalf, Point.scale,
      Scalar.toMagnitude_of_nonneg] using hway
  have hforces' : (sim.step 1).netForces = #[⟨-4⁻¹, 0⟩] := by
    rw [netForces_single hnodes rfl (by norm_num [sim, step])]
    norm_num [sim, step, ForceParameters.centering, Point.scale]
  have hconverged : (sim.step 1).isConverged 2 = true := by
    have hshort : (2 : ℝ)⁻¹ < 2 ∧ ((4 : ℝ)⁻¹ + 4⁻¹) / (1 - 2⁻¹) < 2 := by norm_num
    rw [isConverged_step, hforces', hnodes, hforces]
    simpa [sim, greatestFree, Node.stride, Node.drive, Node.reach, hhalf, hquarter,
      Scalar.toMagnitude_of_nonneg, Scalar.greater_eq_max, Point.scale] using hshort
  refine ⟨hvalid, zero_le_one, fun n => ?_, hconverged, ?_⟩
  · refine (hstride moving ⟨1, 0⟩ rfl n).trans ?_
    norm_num [sim, moving, Point.clampLength, Point.isFinite]
  · exact hnext 2 hconverged 0 _ (by rw [hnodes]; rfl) rfl

end Simulation

end NeighborGraph
