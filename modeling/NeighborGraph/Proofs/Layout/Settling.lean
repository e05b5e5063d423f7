import Mathlib.Analysis.Complex.Norm
import NeighborGraph.Proofs.Layout.Blind
import NeighborGraph.Proofs.Layout.Motion
import NeighborGraph.Proofs.Session.Finite
import NeighborGraph.Proofs.Scalar.Exact

/-!
# Layouts that stay put

A layout counts as converged when no free node can go far under a force that stays as it is. In
exact arithmetic this carries over to all later steps for each node on which the force grows no
stronger: the velocity that a node has left and all that the force adds to it, damped once more with
each step, form a geometric series whose sum is what `Node.reach` computes
(`Simulation.stays_put`). Forces change with the positions, and a force can grow. A node near a
balance of forces that is not stable is drawn away from it, first slowly and then ever faster, and
leaves a layout that has counted as converged (`Simulation.not_stays_put_unstable`).
-/

namespace NeighborGraph

section

variable {α : Type} [Scalar α]

/-- The strength of the force that acts on a node in the next step. -/
def Simulation.strengthOn (sim : Simulation α) (index : Nat) : α :=
  ((sim.netForces.getD index .origin).clampLength sim.forces.maxForce).length

/-- The strength of the force on a node is its length once it has been clamped. -/
theorem Simulation.strengthOn_eq {sim : Simulation α} {i : Nat} {force : Point α}
    (hf : sim.netForces[i]? = some force) :
    sim.strengthOn i = (force.clampLength sim.forces.maxForce).length := by
  rw [strengthOn, Array.getD_eq_getD_getElem?, hf, Option.getD_some]

end

namespace Node

variable {p : ForceParameters ℝ} {timeStep : ℝ} {node : Node ℝ} (force : Point ℝ)

/-- A force changes a velocity by at most its strength for the time of the step. -/
theorem length_drive_le (htime : 0 ≤ timeStep) :
    (node.drive p timeStep force).length ≤
      node.velocity.length + (force.clampLength p.maxForce).length * timeStep := by
  unfold drive
  rw [← Point.length_scale _ htime]
  exact Point.length_add_le _ _

/-- What is left of the velocity of a free node after a step. -/
theorem length_velocity_advance (hfree : node.pinned = false) (hdamping : 0 ≤ p.damping) :
    (node.advance p timeStep force).velocity.length =
      (node.drive p timeStep force).length * p.damping := by
  unfold advance
  rw [if_neg (by simp [hfree])]
  exact Point.length_scale _ hdamping

/-- A free node goes as far as its velocity takes it in the time of a step. -/
theorem distance_advance (hfree : node.pinned = false) (htime : 0 ≤ timeStep) :
    (node.advance p timeStep force).position.distance node.position =
      (node.drive p timeStep force).length * timeStep := by
  unfold advance
  rw [if_neg (by simp [hfree])]
  exact (Point.distance_add_self _ _).trans (Point.length_scale _ htime)

end Node

namespace Simulation

variable {sim : Simulation ℝ} {timeStep epsilon : ℝ}

/-- Whether a step has converged is told by the ways of the free nodes in it and their reaches after
it. -/
theorem isConverged_step {α : Type} [Scalar α] (sim : Simulation α) (timeStep epsilon : α) :
    (sim.step timeStep).isConverged epsilon = (decide (greatestFree
      (fun node force => (node.stride sim.forces (Scalar.toMagnitude timeStep) force).length)
      sim.graph.nodes sim.netForces < epsilon) && decide (greatestFree
      (fun node force => node.reach sim.forces (Scalar.toMagnitude timeStep) force)
      (sim.step timeStep).graph.nodes (sim.step timeStep).netForces < epsilon)) := rfl

/-- What a step records is at least the reach of each free node. -/
theorem reach_le_motion {motion : Motion ℝ} (hmotion : (sim.step timeStep).motion? = some motion)
    {i : ℕ} {node : Node ℝ} {force : Point ℝ}
    (hn : (sim.step timeStep).graph.nodes[i]? = some node)
    (hf : (sim.step timeStep).netForces[i]? = some force) (hfree : node.pinned = false) :
    node.reach sim.forces (Scalar.toMagnitude timeStep) force ≤ motion.reach := by
  cases hmotion
  change _ ≤ greatestFree (fun node force =>
    node.reach sim.forces (Scalar.toMagnitude timeStep) force) _ _
  rw [greatestFree_eq_foldl]
  exact (Scalar.le_foldl_greater _ _).2 _ (mem_freeValues hn hf hfree)

/-- In a converged layout no free node reaches far. -/
theorem reach_lt_of_isConverged (hconverged : (sim.step timeStep).isConverged epsilon = true)
    {i : ℕ} {node : Node ℝ} {force : Point ℝ}
    (hn : (sim.step timeStep).graph.nodes[i]? = some node)
    (hf : (sim.step timeStep).netForces[i]? = some force) (hfree : node.pinned = false) :
    node.reach sim.forces (Scalar.toMagnitude timeStep) force < epsilon := by
  have hreach := of_decide_eq_true (Bool.and_eq_true_iff.1 hconverged).2
  exact (reach_le_motion rfl hn hf hfree).trans_lt hreach

/-- One more term of the geometric series: a speed below its sum is still below it after it has been
damped and pushed once more. -/
theorem damped_add_mul_le {damping speed first push : ℝ} (hnonneg : 0 ≤ damping)
    (hlt : damping < 1) (hfirst : 0 ≤ first) (h : speed * (1 - damping) ≤ first + push) :
    (speed * damping + push) * (1 - damping) ≤ first + push := by
  calc (speed * damping + push) * (1 - damping)
      = damping * (speed * (1 - damping)) + (1 - damping) * push := by ring
    _ ≤ damping * (first + push) + (1 - damping) * (first + push) := by gcongr; linarith
    _ = first + push := by ring

/-- As long as the force on a node grows no stronger, the velocity of the node stays below the sum
of the geometric series. -/
theorem length_drive_stepped (hdamping : 0 ≤ sim.forces.damping) (hlt : sim.forces.damping < 1)
    (htime : 0 ≤ timeStep) {i n : ℕ}
    (hsteady : ∀ k ≤ n, (sim.stepped timeStep k).strengthOn i ≤ sim.strengthOn i)
    {node : Node ℝ} {force : Point ℝ} (hn : (sim.stepped timeStep n).graph.nodes[i]? = some node)
    (hf : (sim.stepped timeStep n).netForces[i]? = some force) (hfree : node.pinned = false) :
    ∃ start : Node ℝ, sim.graph.nodes[i]? = some start ∧ start.pinned = false ∧
      (node.drive sim.forces timeStep force).length * (1 - sim.forces.damping) ≤
        start.velocity.length + sim.strengthOn i * timeStep := by
  have hpush : ∀ {k force}, k ≤ n → (sim.stepped timeStep k).netForces[i]? = some force →
      (force.clampLength sim.forces.maxForce).length * timeStep ≤ sim.strengthOn i * timeStep := by
    intro k force hk hf
    have hstrength := strengthOn_eq hf
    rw [forces_stepped] at hstrength
    exact mul_le_mul_of_nonneg_right (hstrength ▸ hsteady k hk) htime
  induction n generalizing node force with
  | zero =>
    -- Nothing has been damped yet: the sum of the series is more than its first term.
    refine ⟨node, hn, hfree, ?_⟩
    calc (node.drive sim.forces timeStep force).length * (1 - sim.forces.damping)
        ≤ (node.drive sim.forces timeStep force).length :=
          mul_le_of_le_one_right (Point.length_nonneg _) (by linarith)
      _ ≤ node.velocity.length + (force.clampLength sim.forces.maxForce).length * timeStep :=
          Node.length_drive_le force htime
      _ ≤ node.velocity.length + sim.strengthOn i * timeStep :=
          add_le_add_right (hpush le_rfl hf) _
  | succ n ih =>
    obtain ⟨before, acted, hb, ha, rfl⟩ := exists_of_getElem?_step _ hn
    rw [Node.pinned_advance] at hfree
    obtain ⟨start, hstart, hfree₀, hle⟩ := ih (fun k hk => hsteady k (by omega)) hb ha hfree
      (fun hk => hpush (by omega))
    refine ⟨start, hstart, hfree₀, ?_⟩
    rw [forces_stepped, Scalar.toMagnitude_of_nonneg htime]
    -- What is left of the velocity has been damped once more, and the force adds no more than at
    -- first.
    set after := before.advance sim.forces timeStep acted with hafter
    have hdrive : (after.drive sim.forces timeStep force).length ≤
        (before.drive sim.forces timeStep acted).length * sim.forces.damping +
          sim.strengthOn i * timeStep := by
      refine (Node.length_drive_le force htime).trans ?_
      rw [hafter, Node.length_velocity_advance acted hfree hdamping]
      exact add_le_add_right (hpush le_rfl hf) _
    exact (mul_le_mul_of_nonneg_right hdrive (sub_nonneg.2 hlt.le)).trans
      (damped_add_mul_le hdamping hlt (Point.length_nonneg _) hle)

/-- A single node to the right of the center that each step takes half the way to it. -/
structure Halving (x : ℝ) (sim : Simulation ℝ) : Prop where
  nodes : sim.graph.nodes = #[⟨⟨"a"⟩, "A", ⟨x, 0⟩, ⟨0, 0⟩, false⟩]
  links : sim.graph.links = #[]
  forces : sim.forces = ⟨0, 0, 0, 0, 1, 1, 1 / 2⟩
  center : sim.center = ⟨0, 0⟩

namespace Halving

variable {x : ℝ} {sim : Simulation ℝ}

/-- The only force draws the node to the center, by half its way. -/
theorem netForces (h : Halving x sim) : sim.netForces = #[⟨-x / 2, 0⟩] := by
  obtain ⟨hnodes, hlinks, hforces, hcenter⟩ := h
  simp [Simulation.netForces, Graph.netForces, Graph.mutualForces, Graph.nodeCount, pairsBelow,
    hnodes, hlinks, hforces, hcenter, ForceParameters.centering, Point.scale, Point.origin,
    div_eq_mul_inv]

/-- Near the center this force is not clamped. -/
theorem clampLength (hx : |x| ≤ 2) : (⟨-x / 2, 0⟩ : Point ℝ).clampLength 1 = ⟨-x / 2, 0⟩ := by
  have hlength : |-x / 2| ≤ 1 := by
    rw [abs_div, abs_neg, abs_two]
    linarith
  simp [Point.clampLength, Point.isFinite, hlength]

/-- Its strength is half the way to the center. -/
theorem strengthOn (h : Halving x sim) (hx : |x| ≤ 2) : sim.strengthOn 0 = |x| / 2 := by
  have hforce : sim.netForces[0]? = some ⟨-x / 2, 0⟩ := by
    rw [h.netForces]
    rfl
  rw [strengthOn_eq hforce, h.forces, clampLength hx, Point.length_mk_zero, abs_div, abs_neg,
    abs_two]

/-- A step takes the node half the way. -/
theorem step (h : Halving x sim) (hx : |x| ≤ 2) : Halving (x / 2) (sim.step 1) := by
  refine ⟨?_, h.links, h.forces, h.center⟩
  change Array.zipWith _ sim.graph.nodes sim.netForces = _
  have hway : x + -x / 2 = x / 2 := by ring
  rw [h.netForces, h.nodes, h.forces]
  simp [Node.advance, Node.stride, Node.drive, clampLength hx, Point.scale,
    Scalar.toMagnitude_of_nonneg, hway]

/-- After any number of steps the node is on its way, and nearer to the center. -/
theorem stepped (h : Halving x sim) (hx : |x| ≤ 2) (n : ℕ) :
    Halving (x / 2 ^ n) (sim.stepped 1 n) ∧ |x / 2 ^ n| ≤ |x| := by
  induction n with
  | zero => simpa [Simulation.stepped] using h
  | succ n ih =>
    obtain ⟨hn, hle⟩ := ih
    have hhalf : x / 2 ^ (n + 1) = x / 2 ^ n / 2 := by ring
    rw [hhalf]
    refine ⟨hn.step (hle.trans hx), ?_⟩
    rw [abs_div, abs_two]
    linarith [abs_nonneg (x / 2 ^ n)]

/-- The first step ends converged if its way is short, since the next ways are shorter. -/
theorem isConverged (h : Halving x sim) (hx : |x| ≤ 2) {epsilon : ℝ} (hlt : |x| / 2 < epsilon) :
    (sim.step 1).isConverged epsilon = true := by
  have hhalf : |x / 2| ≤ 2 := by
    rw [abs_div, abs_two]
    linarith
  have hnext := h.step hx
  have hshort : |-x / 2| < epsilon ∧ |-(x / 2) / 2| < epsilon := by
    have hnonneg := abs_nonneg x
    simp only [abs_div, abs_neg, abs_two]
    constructor <;> linarith
  rw [isConverged_step, hnext.netForces, hnext.nodes, h.netForces, h.nodes, h.forces]
  simpa [greatestFree, Node.stride, Node.drive, Node.reach, clampLength hx, clampLength hhalf,
    Scalar.toMagnitude_of_nonneg, Scalar.greater_eq_max, Point.scale] using hshort

end Halving

/-- In exact arithmetic, with parameters that pass their check: once a step has ended converged, the
next step moves every free node by less than the threshold, and so does every later step as long as
the force on the node grows no stronger than it was at the time. -/
theorem stays_put {part? : Option String} (hvalid : sim.forces.requirements.check part? = .ok ())
    (htime : 0 < timeStep) (hconverged : (sim.step timeStep).isConverged epsilon = true) {i n : ℕ}
    (hsteady : ∀ k ≤ n, ((sim.step timeStep).stepped timeStep k).strengthOn i ≤
      (sim.step timeStep).strengthOn i)
    {node : Node ℝ} (hn : ((sim.step timeStep).stepped timeStep n).graph.nodes[i]? = some node)
    (hfree : node.pinned = false) :
    ∃ node', ((sim.step timeStep).stepped timeStep (n + 1)).graph.nodes[i]? = some node' ∧
      node'.position.distance node.position < epsilon := by
  have hdamping := Requirements.holds_of_check hvalid ("damping", .fraction, sim.forces.damping)
    (by simp [ForceParameters.requirements])
  obtain ⟨hnonneg, hlt⟩ : 0 ≤ sim.forces.damping ∧ sim.forces.damping < 1 := by
    simpa [Requirement.holds] using hdamping
  obtain ⟨force, hf⟩ := exists_getElem?_netForces hn
  obtain ⟨start, hstart, hfree₀, hle⟩ :=
    (sim.step timeStep).length_drive_stepped hnonneg hlt htime.le hsteady hn hf hfree
  obtain ⟨force₀, hf₀⟩ := exists_getElem?_netForces hstart
  have hreach := reach_lt_of_isConverged hconverged hstart hf₀ hfree₀
  refine ⟨_, getElem?_step hn hf timeStep, ?_⟩
  rw [forces_stepped, Scalar.toMagnitude_of_nonneg htime.le,
    Node.distance_advance force hfree htime.le]
  have hstrength : (force₀.clampLength sim.forces.maxForce).length =
      (sim.step timeStep).strengthOn i := (strengthOn_eq hf₀).symm
  refine lt_of_le_of_lt ?_ hreach
  unfold Node.reach
  rw [Scalar.toMagnitude_of_nonneg htime.le, hstrength, Scalar.one_real,
    le_div_iff₀ (sub_pos.2 hlt)]
  calc (node.drive sim.forces timeStep force).length * timeStep * (1 - sim.forces.damping)
      = (node.drive sim.forces timeStep force).length * (1 - sim.forces.damping) * timeStep := by
        ring
    _ ≤ (start.velocity.length + (sim.step timeStep).strengthOn i * timeStep) * timeStep :=
        mul_le_mul_of_nonneg_right hle htime.le
    _ = start.velocity.length * timeStep +
        (sim.step timeStep).strengthOn i * timeStep * timeStep := by ring

/-- A node that each step takes half the way to the center stays put, although a force acts on it in
each step. -/
theorem stays_put_halving :
    let sim : Simulation ℝ := ⟨⟨0, 0, 0, 0, 1, 1, 1 / 2⟩, Generator.ofSeed 0,
      ⟨#[⟨⟨"a"⟩, "A", ⟨1, 0⟩, ⟨0, 0⟩, false⟩], #[]⟩, ⟨0, 0⟩, none, 0⟩
    let later := (sim.step 1).stepped 1
    sim.forces.requirements.check none = .ok () ∧ (sim.step 1).isConverged 1 = true ∧
      ∀ n, ∃ node node', (later n).graph.nodes[0]? = some node ∧
        (later (n + 1)).graph.nodes[0]? = some node' ∧
        node'.position.distance node.position < 1 := by
  intro sim later
  have hvalid : sim.forces.requirements.check none = .ok () := by
    simp [sim, ForceParameters.requirements, Requirements.check, Requirement.holds,
      Scalar.isMagnitude, Scalar.isPositive]
  have hstart : Halving 1 sim := ⟨rfl, rfl, rfl, rfl⟩
  have hconverged : (sim.step 1).isConverged 1 = true :=
    hstart.isConverged (by simp) (by norm_num)
  have hhalf : |(1 / 2 : ℝ)| ≤ 2 := by norm_num
  have hlater := (hstart.step (by simp)).stepped hhalf
  refine ⟨hvalid, hconverged, fun n => ?_⟩
  have hsteady : ∀ k ≤ n, (later k).strengthOn 0 ≤ (sim.step 1).strengthOn 0 := by
    intro k _
    obtain ⟨hk, hle⟩ := hlater k
    rw [hk.strengthOn (hle.trans hhalf), (hstart.step (by simp)).strengthOn hhalf]
    linarith
  have hnode : (later n).graph.nodes[0]? =
      some ⟨⟨"a"⟩, "A", ⟨1 / 2 / 2 ^ n, 0⟩, ⟨0, 0⟩, false⟩ := by
    rw [(hlater n).1.nodes]
    rfl
  obtain ⟨node', hnode', hnear⟩ := stays_put hvalid one_pos hconverged hsteady hnode rfl
  exact ⟨_, node', hnode, hnode', hnear⟩

/-- A free node that is far from where it was before. -/
theorem exists_moved {i : Nat} {far : Float} {before after : Simulation Float}
    (h : (before.graph.nodes[i]?.bind fun node => after.graph.nodes[i]?.map fun node' =>
      !node.pinned && decide (far ≤ node'.position.distance node.position)) = some true) :
    ∃ node node', before.graph.nodes[i]? = some node ∧ node.pinned = false ∧
      after.graph.nodes[i]? = some node' ∧ far ≤ node'.position.distance node.position := by
  obtain ⟨node, hnode, h⟩ := Option.bind_eq_some_iff.1 h
  obtain ⟨node', hnode', h⟩ := Option.map_eq_some_iff.1 h
  obtain ⟨hfree, hfar⟩ := Bool.and_eq_true_iff.1 h
  exact ⟨node, node', hnode, by simpa using hfree, hnode', of_decide_eq_true hfar⟩

/-- A free node almost half the way between two pinned ones: their forces on it all but cancel, so
that a step ends converged, but the node is drawn away to the side and goes far in the fourth step
after it. -/
theorem not_stays_put_unstable :
    let graph : Graph Float := Graph.build [.node ⟨"a"⟩ "A", .node ⟨"b"⟩ "B", .node ⟨"c"⟩ "C"]
    let calls : List (LayoutCall Float) := [.scatter ⟨0, 0⟩, .pin 0, .move 0 ⟨-5, 0⟩, .pin 1,
      .move 1 ⟨5, 0⟩, .pin 2, .move 2 ⟨0, 0.0001⟩, .unpin 2]
    let prepared := perform (.ofGraph .default (Generator.ofSeed 1) graph) calls
    let sim := prepared.1
    let later := (sim.step 1).stepped 1
    prepared.2 = List.replicate 8 true ∧ sim.forces.requirements.check none = .ok () ∧
      (sim.step 1).isConverged 0.01 = true ∧
      ∃ node node', (later 3).graph.nodes[2]? = some node ∧ node.pinned = false ∧
        (later 4).graph.nodes[2]? = some node' ∧
        0.01 ≤ node'.position.distance node.position := by
  intro graph calls prepared sim later
  have hanswers : prepared.2 = List.replicate 8 true := by decide +kernel
  have hvalid : sim.forces.requirements.check none = .ok () :=
    Except.toOption_eq_some.1 (by decide +kernel)
  have hconverged : (sim.step 1).isConverged 0.01 = true := by decide +kernel
  exact ⟨hanswers, hvalid, hconverged, exists_moved (by decide +kernel)⟩

end Simulation

end NeighborGraph
