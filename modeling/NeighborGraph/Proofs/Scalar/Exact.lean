import Mathlib.Analysis.Complex.Norm
import Mathlib.Analysis.SpecialFunctions.Trigonometric.Basic
import NeighborGraph.Layout.Simulation
import NeighborGraph.Proofs.Scalar.Signs

/-!
# Exact arithmetic

The real numbers are an arithmetic without rounding. Every number is finite, the length of a vector
is its norm in the complex plane (`Point.length_eq_norm`), and the laws of signs hold. What the
dynamics does over the real numbers is what the program means to compute with doubles.
-/

namespace NeighborGraph

noncomputable instance : Scalar ℝ where
  decLt := inferInstance
  decLe := inferInstance
  isFinite _ := true
  abs a := |a|
  sqrt := Real.sqrt
  hypot x y := Real.sqrt (x ^ 2 + y ^ 2)
  sin := Real.sin
  cos := Real.cos

namespace Scalar

@[simp] theorem zero_real : @OfNat.ofNat ℝ 0 (Scalar.instOfNat 0) = 0 := Nat.cast_zero

@[simp] theorem one_real : @OfNat.ofNat ℝ 1 (Scalar.instOfNat 1) = 1 := Nat.cast_one

@[simp] theorem isFinite_real (a : ℝ) : isFinite a = true := rfl

/-- Over the reals, the greater of two is their maximum. -/
theorem greater_eq_max (a b : ℝ) : greater a b = max a b := by
  unfold greater
  split
  · next h => exact (max_eq_left (h.resolve_right (not_not_intro le_rfl)).le).symm
  · next h => exact (max_eq_right (not_lt.1 (not_or.1 h).1)).symm

/-- A real that is not negative counts as it is. -/
theorem toMagnitude_of_nonneg {a : ℝ} (h : 0 ≤ a) : toMagnitude a = a := by
  simp [toMagnitude, greater_eq_max, h]

/-- The greatest of some values is at least each of them and the one begun with. -/
theorem le_foldl_greater (values : List ℝ) (start : ℝ) :
    start ≤ values.foldl greater start ∧
      ∀ value ∈ values, value ≤ values.foldl greater start := by
  induction values generalizing start with
  | nil => simp
  | cons value values ih =>
    obtain ⟨hstart, hvalues⟩ := ih (greater start value)
    rw [List.foldl_cons]
    rw [greater_eq_max] at hstart hvalues ⊢
    exact ⟨(le_max_left ..).trans hstart,
      List.forall_mem_cons.2 ⟨(le_max_right ..).trans hstart, hvalues⟩⟩

end Scalar

namespace Requirement

variable {a : ℝ}

@[simp] theorem holds_magnitude_iff : magnitude.holds a = true ↔ 0 ≤ a := by
  simp [holds, Scalar.isMagnitude]

@[simp] theorem holds_positive_iff : positive.holds a = true ↔ 0 < a := by
  simp [holds, Scalar.isPositive]

@[simp] theorem holds_fraction_iff : fraction.holds a = true ↔ 0 ≤ a ∧ a < 1 := by
  simp [holds]

end Requirement

namespace Point

variable (p q : Point ℝ)

@[simp] theorem mk_add_mk (a b c d : ℝ) : (⟨a, b⟩ + ⟨c, d⟩ : Point ℝ) = ⟨a + c, b + d⟩ := rfl

@[simp] theorem mk_sub_mk (a b c d : ℝ) : (⟨a, b⟩ - ⟨c, d⟩ : Point ℝ) = ⟨a - c, b - d⟩ := rfl

/-- The length of a vector is the norm of the complex number with its components. -/
theorem length_eq_norm : p.length = ‖(⟨p.x, p.y⟩ : ℂ)‖ := by
  rw [Complex.norm_eq_sqrt_sq_add_sq]
  rfl

@[simp] theorem length_mk_zero (a : ℝ) : (⟨a, 0⟩ : Point ℝ).length = |a| := by
  change Real.sqrt (a ^ 2 + 0 ^ 2) = |a|
  rw [zero_pow two_ne_zero, add_zero, Real.sqrt_sq_eq_abs]

@[simp] theorem length_origin : (origin : Point ℝ).length = 0 := by
  rw [origin, Scalar.zero_real, length_mk_zero, abs_zero]

/-- No length is negative. -/
theorem length_nonneg : 0 ≤ p.length := Real.sqrt_nonneg _

/-- The way along two vectors is at least as long as that along their sum. -/
theorem length_add_le : (p + q).length ≤ p.length + q.length := by
  simp only [length_eq_norm]
  exact norm_add_le (⟨p.x, p.y⟩ : ℂ) ⟨q.x, q.y⟩

/-- A multiple of a vector has this multiple of its length. -/
theorem length_scale {k : ℝ} (hk : 0 ≤ k) : (p.scale k).length = p.length * k := by
  have hscale : (⟨(p.scale k).x, (p.scale k).y⟩ : ℂ) = (⟨p.x, p.y⟩ : ℂ) * (k : ℂ) := by
    apply Complex.ext <;> simp [scale]
  rw [length_eq_norm, hscale, norm_mul, Complex.norm_of_nonneg hk, ← length_eq_norm]

/-- A vector within the limit is left as it is. -/
theorem clampLength_of_le {limit : ℝ} (h : p.length ≤ limit) : p.clampLength limit = p := by
  simp [clampLength, isFinite, h]

/-- A vector beyond the limit is brought to it. -/
theorem clampLength_of_lt {limit : ℝ} (h : limit < p.length) :
    p.clampLength limit = p.scale (limit / p.length) := by
  simp [clampLength, isFinite, h]

/-- What has been clamped is no longer than the limit, however long it was. -/
theorem length_clampLength_le {limit : ℝ} (hlimit : 0 ≤ limit) :
    (p.clampLength limit).length ≤ limit := by
  by_cases h : p.length ≤ limit
  · rwa [clampLength_of_le p h]
  · have hpos : 0 < p.length := hlimit.trans_lt (not_le.1 h)
    rw [clampLength_of_lt p (not_le.1 h), length_scale _ (div_nonneg hlimit hpos.le),
      mul_div_cancel₀ _ hpos.ne']

/-- A point is no way from itself. -/
theorem distance_self : p.distance p = 0 := by
  have hway : p - p = origin := by
    cases p
    exact congrArg₂ mk ((sub_self _).trans Scalar.zero_real.symm)
      ((sub_self _).trans Scalar.zero_real.symm)
  rw [distance, hway, length_origin]

/-- A node that goes a way has gone that far. -/
theorem distance_add_self : (p + q).distance p = q.length := by
  have hway : p + q - p = q := by
    cases p
    cases q
    exact congrArg₂ mk (add_sub_cancel_left ..) (add_sub_cancel_left ..)
  rw [distance, hway]

end Point

instance : SignLaws ℝ where
  sub_eq_add_neg := sub_eq_add_neg
  neg_sub := neg_sub
  neg_neg := neg_neg
  mul_neg_one a := by
    change a * -((1 : ℕ) : ℝ) = -a
    simp
  neg_mul := neg_mul
  hypot_neg a b := by
    change Real.sqrt ((-a) ^ 2 + (-b) ^ 2) = Real.sqrt (a ^ 2 + b ^ 2)
    rw [neg_sq, neg_sq]

end NeighborGraph
