import NeighborGraph.Proofs.Geometry.ClampLength
import NeighborGraph.Proofs.Layout.Changes

/-!
# Bounded motion

Only forces are clamped in a step: a velocity is what is left of all forces so far, and a position
adds up the ways of all steps. Both stay finite for ever if the greatest force is moderate, measured
by the time that a step takes (`ForceParameters.Moderate`). A velocity stays within a power of two
that is so great that it absorbs what one step adds (`Node.within_drive`), and the way of one step
is too short to take a position out of the range of a double (`Node.bounded_advance`).
-/

namespace NeighborGraph

open Double

namespace Double

/-- A positive number counts as it is. -/
theorem toMagnitude_of_isPositive {a : Float} (h : Scalar.isPositive a = true) :
    Scalar.toMagnitude a = a := by
  obtain ⟨hf, hpos⟩ := Bool.and_eq_true_iff.1 h
  rw [Scalar.toMagnitude, if_pos hf, Scalar.greater, if_pos (.inl (of_decide_eq_true hpos))]

/-- What a number counts is finite. -/
theorem isFinite_toMagnitude (a : Float) : (Scalar.toMagnitude a).isFinite = true := by
  unfold Scalar.toMagnitude
  split
  · next h => exact (value_greater h (within_zero 0).isFinite).1
  · exact (within_zero 0).isFinite

/-- A positive number is finite and stands for one above zero. -/
theorem value_pos_of_isPositive {a : Float} (h : Scalar.isPositive a = true) :
    a.isFinite = true ∧ 0 < value a := by
  obtain ⟨hf, hpos⟩ := Bool.and_eq_true_iff.1 h
  have hlt := (lt_iff (within_zero 0).isFinite hf).1 (of_decide_eq_true hpos)
  exact ⟨hf, value_zero ▸ hlt⟩

/-- A fraction is at most one. -/
theorem within_of_fraction {a : Float} (h : Requirement.fraction.holds a = true) : Within 0 a := by
  obtain ⟨hle, hlt⟩ := Bool.and_eq_true_iff.1 h
  have hle := of_decide_eq_true hle
  have hlt : a < 1 := of_decide_eq_true hlt
  obtain ⟨hone, hvone⟩ := value_ofNat (n := 1) (by decide)
  have hf : a.isFinite = true := by
    change a.toModel.unpack.isFinite = true
    have hsign := (zero_le_iff a).1 hle
    generalize hu : a.toModel.unpack = u at hsign
    cases hsign with
    | infinity =>
      rw [lt_iff_compare, hu] at hlt
      cases hlt
    | zero sign => rfl
    | finite m e hpos => rfl
  have hlow := (le_iff (within_zero 0).isFinite hf).1 hle
  have hhigh := (lt_iff hf hone).1 hlt
  rw [value_zero] at hlow
  rw [hvone, Nat.cast_one] at hhigh
  refine ⟨hf, ?_⟩
  rw [abs_of_nonneg hlow, zpow_zero]
  exact hhigh.le

/-- What is small beside the greatest double does not take a double out of the range. -/
theorem isFinite_add {a b : Float} (ha : a.isFinite = true) (hb : Within 969 b) :
    (a + b).isFinite = true := by
  refine (rounded_add ha hb.isFinite).isFinite_of_abs_le ?_
  linarith [abs_add_le (value a) (value b), abs_value_le a, hb.bound]

end Double

namespace ForceParameters

/-- The greatest force is moderate for the time that a step takes. -/
structure Moderate (p : ForceParameters Float) (timeStep : Float) : Prop where
  le : value p.maxForce * max 1 (value timeStep) ^ 2 ≤ 2 ^ (900 : ℤ)

/-- Powers of two that bound the greatest force, the time of a step and the velocities of nodes. -/
structure Bounds (p : ForceParameters Float) (timeStep : Float) (force time velocity : ℤ) :
    Prop where
  force_ge : -1074 ≤ force
  force_le : force ≤ 900
  time_nonneg : 0 ≤ time
  velocity_ge : -1020 ≤ velocity
  drive_le : force + time + 56 ≤ velocity
  stride_le : velocity + time ≤ 969
  maxForce : Within force p.maxForce
  maxForce_nonneg : 0 ≤ value p.maxForce
  timeStep : Within time timeStep
  damping : Within 0 p.damping

/-- Under a moderate force there are powers of two to bound force, time and velocity by. -/
theorem exists_bounds {p : ForceParameters Float} {timeStep : Float}
    (hforce : Scalar.isPositive p.maxForce = true)
    (hdamping : Requirement.fraction.holds p.damping = true)
    (htime : Scalar.isPositive timeStep = true) (h : p.Moderate timeStep) :
    ∃ force time velocity, p.Bounds timeStep force time velocity := by
  obtain ⟨hfForce, hpForce⟩ := value_pos_of_isPositive hforce
  obtain ⟨hfTime, hpTime⟩ := value_pos_of_isPositive htime
  obtain ⟨m, hm⟩ : ∃ m, m = max 1 (value timeStep) := ⟨_, rfl⟩
  have hone : 1 ≤ m := hm ▸ le_max_left ..
  obtain ⟨e, he, he'⟩ := exists_mem_Ioc_zpow hpForce one_lt_two
  obtain ⟨t, ht, ht'⟩ := exists_mem_Ioc_zpow (zero_lt_one.trans_le hone) one_lt_two
  have h := h.le
  rw [← hm] at h
  have hlow : -1074 ≤ e + 1 := by
    have hleast := two_zpow_le_abs_value hpForce.ne'
    rw [abs_of_pos hpForce] at hleast
    exact (zpow_le_zpow_iff_right₀ one_lt_two).1 (hleast.trans he')
  have hnonneg : 0 ≤ t + 1 := by
    have : (2 : ℝ) ^ (0 : ℤ) ≤ 2 ^ (t + 1) := by rw [zpow_zero]; exact hone.trans ht'
    exact (zpow_le_zpow_iff_right₀ one_lt_two).1 this
  have hgreat : t < 1024 := by
    refine (zpow_lt_zpow_iff_right₀ (one_lt_two (α := ℝ))).1 (ht.trans_le ?_)
    rw [hm]
    refine max_le (one_le_zpow₀ one_le_two (by decide)) ?_
    exact (le_abs_self _).trans (within_of_isFinite hfTime).bound
  have hproduct : e + 2 * t < 900 := by
    refine (zpow_lt_zpow_iff_right₀ (one_lt_two (α := ℝ))).1 (lt_of_lt_of_le ?_ h)
    rw [zpow_add₀ two_ne_zero, mul_comm 2 t, zpow_mul]
    exact mul_lt_mul'' he (pow_lt_pow_left₀ ht (by positivity) two_ne_zero) (by positivity)
      (by positivity)
  have hforceLe : e < 900 := by
    refine (zpow_lt_zpow_iff_right₀ (one_lt_two (α := ℝ))).1 (he.trans_le (le_trans ?_ h))
    exact le_mul_of_one_le_right hpForce.le (one_le_pow₀ hone)
  refine ⟨e + 1, t + 1, max (e + 1 + (t + 1) + 56) (-60), hlow, by omega, hnonneg, by omega,
    by omega, by omega, ⟨hfForce, by rwa [abs_of_pos hpForce]⟩, hpForce.le, ⟨hfTime, ?_⟩, ?_⟩
  · rw [abs_of_pos hpTime]
    exact (hm ▸ le_max_right ..).trans ht'
  · exact within_of_fraction hdamping

end ForceParameters

namespace Node

variable {p : ForceParameters Float} {timeStep : Float} {e t k : ℤ}

/-- What a step adds to a velocity is absorbed by the bound of the velocity. -/
theorem within_drive (hp : p.Bounds timeStep e t k) {node : Node Float}
    (hv : node.velocity.Within k) (force : Point Float) :
    (node.drive p timeStep force).Within k := by
  obtain ⟨hlow, hhigh, htime, hvelocity, hdrive, hstride, hmax, hnonneg, hstep, -⟩ := hp
  have hclamped := Point.within_clampLength hmax hnonneg hlow hhigh force
  have hadded : ∀ {c : Float}, Within (e + 2) c → Within (k - 54) (c * timeStep) := fun hc =>
    (hc.mul hstep (by omega) (by omega)).mono (by omega)
  exact ⟨hv.x.add_of_small (hadded hclamped.x) (by omega) (by omega),
    hv.y.add_of_small (hadded hclamped.y) (by omega) (by omega)⟩

/-- The way of a step is short beside the greatest double. -/
theorem within_stride (hp : p.Bounds timeStep e t k) {node : Node Float}
    (hv : node.velocity.Within k) (force : Point Float) :
    (node.stride p timeStep force).Within 969 := by
  have hdrive := within_drive hp hv force
  obtain ⟨-, -, htime, hvelocity, -, hstride, -, -, hstep, -⟩ := hp
  exact ⟨(hdrive.x.mul hstep (by omega) (by omega)).mono (by omega),
    (hdrive.y.mul hstep (by omega) (by omega)).mono (by omega)⟩

/-- The node is somewhere in the range of doubles, and its velocity is within a bound. -/
structure Bounded (k : ℤ) (node : Node Float) : Prop where
  position : node.position.isFinite = true
  velocity : node.velocity.Within k

/-- A step keeps a node bounded, whatever force acts on it. -/
theorem bounded_advance (hp : p.Bounds timeStep e t k) {node : Node Float} (h : node.Bounded k)
    (force : Point Float) : (node.advance p timeStep force).Bounded k := by
  unfold advance
  split
  · exact ⟨h.position, Point.within_origin k⟩
  · have hdrive := within_drive hp h.velocity force
    have hstride := within_stride hp h.velocity force
    obtain ⟨hx, hy⟩ := (Point.isFinite_iff _).1 h.position
    obtain ⟨-, -, htime, hvelocity, -, hlimit, -, -, -, hdamping⟩ := hp
    refine ⟨(Point.isFinite_iff _).2 ⟨isFinite_add hx hstride.x, isFinite_add hy hstride.y⟩, ?_⟩
    exact ⟨(hdrive.x.mul hdamping (by omega) (by omega)).mono (by omega),
      (hdrive.y.mul hdamping (by omega) (by omega)).mono (by omega)⟩

end Node

/-! ## Scattering -/

namespace Double

/-- A number of 53 bits in parts of two to the power 53. -/
theorem within_ofNat_div {n : Nat} (h : n < 2 ^ 53) :
    Within 0 (Float.ofNat n / Float.ofNat 0x20000000000000) := by
  have hsize : Float.ofNat 0x20000000000000 = Float.ofBits 0x4340000000000000 := by decide +kernel
  obtain ⟨hf, hv⟩ := value_ofNat h
  obtain ⟨hfsize, hvsize⟩ :=
    value_of_unpack_eq (a := Float.ofBits 0x4340000000000000) (k := 1) (h := by decide) rfl
  rw [← hsize] at hfsize hvsize
  refine (rounded_div hf hfsize (by rw [hvsize]; positivity)).within (by decide) (by decide) ?_
  rw [hv, hvsize, abs_of_nonneg (by positivity), div_le_iff₀ (by positivity), zpow_zero, one_mul]
  exact_mod_cast h.le

/-- A finite number times one that is at most one stays finite. -/
theorem isFinite_mul_of_within {a b : Float} (ha : Within 0 a) (hb : b.isFinite = true) :
    (a * b).isFinite = true := by
  refine ((rounded_mul ha.isFinite hb).of_abs_le (g := |value b|) ?_ ?_ ?_).1
  · rcases abs_choice (value b) with h | h <;> rw [h]
    exacts [onGrid_value b, (onGrid_value b).neg]
  · exact (abs_value_le b).trans_lt greatestValue_lt
  · rw [abs_mul]
    exact mul_le_of_le_one_left (abs_nonneg _) (ha.bound.trans (by norm_num))

end Double

/-- The upper bits of a word that a draw is made of. -/
theorem toNat_shiftRight_lt (word : UInt64) : (word >>> 11).toNat < 2 ^ 53 := by
  rw [UInt64.toNat_shiftRight]
  change word.toNat >>> 11 < 2 ^ 53
  have := word.toNat_lt
  rw [Nat.shiftRight_eq_div_pow]
  omega

/-- A draw is at least zero and at most one. -/
theorem Generator.within_unitAt (g : Generator) (position : Nat) :
    Double.Within 0 (g.unitAt position : Float) :=
  within_ofNat_div (toNat_shiftRight_lt (g.key.wide position))

namespace Simulation

/-- Nodes that are scattered over an area of finite extents are somewhere in the range of doubles,
at rest. -/
theorem bounded_scatterNodes (area : Size Float) (hwidth : area.width.isFinite = true)
    (hheight : area.height.isFinite = true) (k : ℤ) (generator : Generator)
    (nodes : List (Node Float)) :
    ∀ node ∈ (scatterNodes area generator nodes).1, node.Bounded k := by
  induction nodes generalizing generator with
  | nil => exact nofun
  | cons node rest ih =>
    intro placed hplaced
    rcases List.mem_cons.1 hplaced with rfl | hrest
    · refine ⟨(Point.isFinite_iff _).2 ⟨?_, ?_⟩, Point.within_origin k⟩
      · exact isFinite_mul_of_within (generator.within_unitAt _) hwidth
      · exact isFinite_mul_of_within (Generator.within_unitAt _ _) hheight
    · exact ih _ placed hrest

/-- Scattered nodes are at rest within finite places, so that every bound on velocities holds of
them. -/
theorem bounded_scatter {sim sim' : Simulation Float} {area : Size Float}
    (h : sim.scatter area = .ok sim') (k : ℤ) : ∀ node ∈ sim'.graph.nodes, node.Bounded k := by
  have hwidth := isFinite_toMagnitude area.width
  have hheight := isFinite_toMagnitude area.height
  rw [(nodes_of_scatter_eq_ok h).2.2]
  generalize Scalar.toMagnitude area.width = width, Scalar.toMagnitude area.height = height at *
  intro node hnode
  exact bounded_scatterNodes ⟨width, height⟩ hwidth hheight k _ _ node
    (List.mem_toArray.1 hnode)

/-- A step keeps all nodes bounded. -/
theorem bounded_step {sim : Simulation Float} {timeStep : Float} {e t k : ℤ}
    (hp : sim.forces.Bounds (Scalar.toMagnitude timeStep) e t k)
    (h : ∀ node ∈ sim.graph.nodes, node.Bounded k) :
    ∀ node ∈ (sim.step timeStep).graph.nodes, node.Bounded k := by
  intro node' hnode'
  obtain ⟨node, hnode, force, rfl⟩ := (sim.nodewise_step timeStep).mem hnode'
  exact Node.bounded_advance hp (h node hnode) force

end Simulation

end NeighborGraph
