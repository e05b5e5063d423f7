import NeighborGraph.Proofs.Scalar.Arithmetic

/-!
# Bounds by powers of two, and the length of a vector

A power of two that bounds exact results bounds rounded ones as well, so such bounds go through
the arithmetic of doubles without loss (`Double.Within`). The length of a vector with finite
components is at least half of each component (`Double.abs_le_two_mul_hypot`), and it is finite
unless a component is very great (`Double.within_hypot`).
-/

namespace NeighborGraph.Double

open Float.Model Float.Model.UnpackedFloat

/-! ## Bounds by powers of two -/

/-- The double is finite and its distance from zero is at most a power of two. -/
structure Within (k : ℤ) (a : Float) : Prop where
  isFinite : a.isFinite = true
  bound : |value a| ≤ 2 ^ k

section Within

variable {j k : ℤ} {a b : Float}

/-- A double within a power of two is within a greater one. -/
theorem Within.mono (h : Within j a) (hle : j ≤ k) : Within k a :=
  ⟨h.isFinite, h.bound.trans (zpow_le_zpow_right₀ one_le_two hle)⟩

/-- What a real within a power of two is rounded to is within it. -/
theorem Rounded.within {x : ℝ} (h : Rounded x a) (hlow : -1074 ≤ k) (hhigh : k ≤ 1023)
    (hx : |x| ≤ 2 ^ k) : Within k a := by
  have hlt : (2 : ℝ) ^ k < 2 ^ (1024 : ℤ) := zpow_lt_zpow_right₀ one_lt_two (by omega)
  obtain ⟨hf, ha⟩ := h.of_abs_le (onGrid_two_zpow hlow) hlt hx
  exact ⟨hf, ha⟩

/-- A product is within the product of the bounds. -/
theorem Within.mul (ha : Within j a) (hb : Within k b) (hlow : -1074 ≤ j + k)
    (hhigh : j + k ≤ 1023) : Within (j + k) (a * b) := by
  refine (rounded_mul ha.isFinite hb.isFinite).within hlow hhigh ?_
  rw [abs_mul, zpow_add₀ two_ne_zero]
  exact mul_le_mul ha.bound hb.bound (abs_nonneg _) (by positivity)

/-- A sum is within twice the bound of its terms. -/
theorem Within.add (ha : Within k a) (hb : Within k b) (hlow : -1075 ≤ k) (hhigh : k ≤ 1022) :
    Within (k + 1) (a + b) := by
  refine (rounded_add ha.isFinite hb.isFinite).within (by omega) (by omega) ?_
  rw [zpow_add_one₀ two_ne_zero]
  linarith [abs_add_le (value a) (value b), ha.bound, hb.bound]

/-- A power of two absorbs what is less than half a step above it. -/
theorem Within.add_of_small (ha : Within k a) (hb : Within (k - 54) b) (hlow : -1074 ≤ k)
    (hhigh : k ≤ 1022) : Within k (a + b) := by
  have hround := rounded_add ha.isFinite hb.isFinite
  have hsmall : (2 : ℝ) ^ (k - 54) < 2 ^ (k - 53) := zpow_lt_zpow_right₀ one_lt_two (by omega)
  have hsum : |value a + value b| < 2 ^ k + 2 ^ (k - 53) := by
    linarith [abs_add_le (value a) (value b), ha.bound, hb.bound]
  have hfinite : (a + b).isFinite = true := by
    refine (hround.within (k := k + 1) (by omega) (by omega) ?_).isFinite
    have : (2 : ℝ) ^ (k - 53) ≤ 2 ^ k := zpow_le_zpow_right₀ one_le_two (by omega)
    rw [zpow_add_one₀ two_ne_zero]
    linarith
  have hn := hround.nearest_value hfinite
  obtain ⟨hneg, hpos⟩ := abs_lt.1 hsum
  have hgrid := onGrid_two_zpow hlow
  have hlower := hn.neg.le_of_lt_add hgrid le_rfl (by linarith)
  exact ⟨hfinite, abs_le.2 ⟨by linarith, hn.le_of_lt_add hgrid le_rfl hpos⟩⟩

/-- A root is within the root of the bound. -/
theorem Within.sqrt (ha : Within (2 * k) a) (h : 0 ≤ value a) (hlow : -1074 ≤ k)
    (hhigh : k ≤ 1023) : Within k a.sqrt := by
  refine (rounded_sqrt ha.isFinite h).within hlow hhigh ?_
  rw [abs_of_nonneg (Real.sqrt_nonneg _), Real.sqrt_le_left (by positivity), ← zpow_natCast,
    ← zpow_mul, mul_comm]
  exact (le_abs_self _).trans ha.bound

/-- The double zero has the value zero. -/
theorem value_zero : value (0 : Float) = 0 := by
  obtain ⟨-, hv⟩ := value_ofNat (n := 0) (by decide)
  exact hv.trans Nat.cast_zero

/-- Zero is within every power of two. -/
theorem within_zero (k : ℤ) : Within k (0 : Float) := by
  obtain ⟨hf, -⟩ := value_ofNat (n := 0) (by decide)
  refine ⟨hf, ?_⟩
  rw [value_zero, abs_zero]
  positivity

/-- The greater one of two finite numbers. -/
theorem value_greater {a b : Float} (ha : a.isFinite = true) (hb : b.isFinite = true) :
    (Scalar.greater a b).isFinite = true ∧
      value (Scalar.greater a b) = max (value a) (value b) := by
  unfold Scalar.greater
  split
  · next h =>
    have hlt : b < a := h.resolve_right (not_not.2 ((le_iff hb hb).2 le_rfl))
    exact ⟨ha, (max_eq_left ((lt_iff hb ha).1 hlt).le).symm⟩
  · next h =>
    have hle := not_lt.1 fun hlt => h (.inl ((lt_iff hb ha).2 hlt))
    exact ⟨hb, (max_eq_right hle).symm⟩

end Within

/-! ## The root of a sum of squares -/

section SumOfSquares

variable {j k : ℤ} {a b : Float}

/-- A double times itself is its square, rounded. -/
theorem rounded_mul_self (ha : a.isFinite = true) : Rounded (value a ^ 2) (a * a) := by
  rw [sq]
  exact rounded_mul ha ha

/-- A square is within the square of the bound, and not negative. -/
theorem within_mul_self (ha : Within k a) (hlow : -537 ≤ k) (hhigh : k ≤ 511) :
    Within (2 * k) (a * a) ∧ 0 ≤ value (a * a) := by
  have hw := ha.mul ha (by omega) (by omega)
  rw [← two_mul] at hw
  have hnearest := (rounded_mul_self ha.isFinite).nearest_value hw.isFinite
  exact ⟨hw, hnearest.ge_of_ge onGrid_zero (sq_nonneg _)⟩

/-- The sum of two squares is within four times the square of the bound, and not negative. -/
theorem within_sum_squares (ha : Within k a) (hb : Within k b) (hlow : -537 ≤ k) (hhigh : k ≤ 510) :
    Within (2 * (k + 1)) (a * a + b * b) ∧ 0 ≤ value (a * a + b * b) := by
  obtain ⟨ha2, hapos⟩ := within_mul_self ha hlow (by omega)
  obtain ⟨hb2, hbpos⟩ := within_mul_self hb hlow (by omega)
  have hw := ha2.add hb2 (by omega) (by omega)
  refine ⟨hw.mono (by omega), ?_⟩
  exact ((rounded_add ha2.isFinite hb2.isFinite).nearest_value hw.isFinite).ge_of_ge onGrid_zero
    (add_nonneg hapos hbpos)

/-- The root of the sum of two squares is within twice the bound. -/
theorem within_sqrt_sum_squares (ha : Within k a) (hb : Within k b) (hlow : -537 ≤ k)
    (hhigh : k ≤ 510) : Within (k + 1) (a * a + b * b).sqrt := by
  obtain ⟨hw, hpos⟩ := within_sum_squares ha hb hlow hhigh
  exact hw.sqrt hpos (by omega) (by omega)

/-- The root of a sum of squares is not below a power of two that is not above both numbers. -/
theorem le_sqrt_sum_squares (ha : Within 510 a) (hb : Within 510 b) (hlow : -537 ≤ j)
    (hj : 2 ^ j ≤ max |value a| |value b|) : 2 ^ j ≤ value (a * a + b * b).sqrt := by
  obtain ⟨ha2, hapos⟩ := within_mul_self ha (by omega) (by omega)
  obtain ⟨hb2, hbpos⟩ := within_mul_self hb (by omega) (by omega)
  obtain ⟨hsum, hsumpos⟩ := within_sum_squares ha hb (by omega) (by omega)
  have hroot := hsum.sqrt hsumpos (by omega) (by omega)
  have hpow : (2 : ℝ) ^ (2 * j) = (2 ^ j) ^ 2 := by rw [mul_comm, zpow_mul]; rfl
  have hgrid : OnGrid (2 ^ (2 * j)) := onGrid_two_zpow (by omega)
  -- The square of the greater number exceeds the square of the power of two.
  have hsquare : ∀ {c : Float}, Within (2 * 510) (c * c) → c.isFinite = true → 2 ^ j ≤ |value c| →
      (2 : ℝ) ^ (2 * j) ≤ value (c * c) := by
    intro c hc hf hle
    refine ((rounded_mul_self hf).nearest_value hc.isFinite).ge_of_ge hgrid ?_
    rw [hpow, ← sq_abs (value c)]
    exact pow_le_pow_left₀ (by positivity) hle 2
  have hboth : (2 : ℝ) ^ (2 * j) ≤ value (a * a) + value (b * b) := by
    rcases le_max_iff.1 hj with h | h
    · linarith [hsquare ha2 ha.isFinite h]
    · linarith [hsquare hb2 hb.isFinite h]
  have hnearest := (rounded_add ha2.isFinite hb2.isFinite).nearest_value hsum.isFinite
  have hle := hnearest.ge_of_ge hgrid hboth
  refine ((rounded_sqrt hsum.isFinite hsumpos).nearest_value hroot.isFinite).ge_of_ge
    (onGrid_two_zpow (by omega)) ?_
  rw [Real.le_sqrt (by positivity) hsumpos, ← hpow]
  exact hle

end SumOfSquares

/-! ## The length of a vector -/

section Hypot

variable {x y : Float}

/-- A double that unpacks as a power of two has it as its value. -/
theorem value_of_unpack_eq {a : Float} {k : ℤ} {h : 0 < 2 ^ 52}
    (ha : a.toModel.unpack = .finite .positive (2 ^ 52) k h) :
    a.isFinite = true ∧ value a = 2 ^ (52 + k) := by
  refine ⟨(congrArg UnpackedFloat.isFinite ha).trans rfl, ?_⟩
  rw [value, ha, unpackedValue_finite, zpow_add₀ two_ne_zero]
  norm_num [signed]

/-- The factor for small components is a power of two. -/
theorem value_farScale : farScale.isFinite = true ∧ value farScale = 2 ^ (600 : ℤ) :=
  value_of_unpack_eq (k := 548) (h := by decide) rfl

/-- The factor for great components is a power of two. -/
theorem value_nearScale : nearScale.isFinite = true ∧ value nearScale = 2 ^ (-600 : ℤ) :=
  value_of_unpack_eq (k := -652) (h := by decide) rfl

/-- The greatest component that is squared as it is. -/
theorem value_greatestPlain : greatestPlain.isFinite = true ∧ value greatestPlain = 2 ^ (500 : ℤ) :=
  value_of_unpack_eq (k := 448) (h := by decide) rfl

/-- The least component that is squared as it is. -/
theorem value_leastPlain : leastPlain.isFinite = true ∧ value leastPlain = 2 ^ (-400 : ℤ) :=
  value_of_unpack_eq (k := -452) (h := by decide) rfl

/-- A finite double is not infinite. -/
theorem isInf_eq_false (hx : x.isFinite = true) : x.isInf = false := by
  change x.toModel.unpack.isFinite = true at hx
  change x.toModel.unpack.isInf = false
  cases hu : x.toModel.unpack <;> rw [hu] at hx <;> first | rfl | cases hx

/-- The longer one of two components. -/
theorem value_long (hx : x.isFinite = true) (hy : y.isFinite = true) :
    (if x.abs < y.abs then y.abs else x.abs).isFinite = true ∧
      value (if x.abs < y.abs then y.abs else x.abs) = max |value x| |value y| := by
  obtain ⟨hfx, hvx⟩ := value_abs hx
  obtain ⟨hfy, hvy⟩ := value_abs hy
  split
  · next hlt =>
    rw [lt_iff hfx hfy, hvx, hvy] at hlt
    exact ⟨hfy, by rw [hvy, max_eq_right hlt.le]⟩
  · next hlt =>
    rw [lt_iff hfx hfy, hvx, hvy, not_lt] at hlt
    exact ⟨hfx, by rw [hvx, max_eq_left hlt]⟩

/-- The length of a vector with finite components is the root of the sum of their squares, after
both have been scaled by a power of two if the longer one is very great or very small. -/
theorem hypot_cases (hx : x.isFinite = true) (hy : y.isFinite = true) :
    (2 ^ (500 : ℤ) < max |value x| |value y| ∧ hypot x y = farScale *
      (nearScale * x * (nearScale * x) + nearScale * y * (nearScale * y)).sqrt) ∨
    (max |value x| |value y| < 2 ^ (-400 : ℤ) ∧ hypot x y = nearScale *
      (farScale * x * (farScale * x) + farScale * y * (farScale * y)).sqrt) ∨
    (max |value x| |value y| ≤ 2 ^ (500 : ℤ) ∧ 2 ^ (-400 : ℤ) ≤ max |value x| |value y| ∧
      hypot x y = (x * x + y * y).sqrt) := by
  obtain ⟨hf, hv⟩ := value_long hx hy
  unfold hypot
  rw [if_neg (by simp [isInf_eq_false hx, isInf_eq_false hy])]
  dsimp only
  generalize (if x.abs < y.abs then y.abs else x.abs) = long at hf hv ⊢
  have hgreat := lt_iff value_greatestPlain.1 hf
  have hsmall := lt_iff hf value_leastPlain.1
  rw [hv, value_greatestPlain.2] at hgreat
  rw [hv, value_leastPlain.2] at hsmall
  split
  · next hlt => exact .inl ⟨hgreat.1 hlt, rfl⟩
  · next hle =>
    rw [hgreat, not_lt] at hle
    split
    · next hlt => exact .inr (.inl ⟨hsmall.1 hlt, rfl⟩)
    · next hge =>
      rw [hsmall, not_lt] at hge
      exact .inr (.inr ⟨hle, hge, rfl⟩)

/-- A power of two as a factor moves the bounds of a number. -/
theorem within_scaled {scale a : Float} {e k : ℤ} (hs : scale.isFinite = true ∧ value scale = 2 ^ e)
    (ha : Within k a) (hlow : -1074 ≤ e + k) (hhigh : e + k ≤ 1023) :
    Within (e + k) (scale * a) :=
  Within.mul ⟨hs.1, by rw [hs.2, abs_of_pos (by positivity)]⟩ ha hlow hhigh

/-- A component that is scaled by a power of two keeps its distance from zero, as far as the power
goes. -/
theorem le_abs_scaled {scale a : Float} {e j : ℤ}
    (hs : scale.isFinite = true ∧ value scale = 2 ^ e) (ha : a.isFinite = true)
    (hf : (scale * a).isFinite = true) (hlow : -1074 ≤ e + j) (hle : 2 ^ j ≤ |value a|) :
    2 ^ (e + j) ≤ |value (scale * a)| := by
  refine ((rounded_mul hs.1 ha).nearest_value hf).le_abs_of_le_abs (onGrid_two_zpow hlow) ?_
  rw [hs.2, abs_mul, abs_of_pos (by positivity), zpow_add₀ two_ne_zero]
  exact mul_le_mul_of_nonneg_left hle (by positivity)

/-- A vector that is scaled, measured and scaled back has a length that is finite or positive
infinity, and not below a power of two that is not above the longer component. -/
theorem le_scaled_hypot {inner outer : Float} {e : ℤ}
    (hi : inner.isFinite = true ∧ value inner = 2 ^ (-e))
    (ho : outer.isFinite = true ∧ value outer = 2 ^ e) (hx : x.isFinite = true)
    (hy : y.isFinite = true) (hix : Within 500 (inner * x)) (hiy : Within 500 (inner * y)) :
    let length := outer * (inner * x * (inner * x) + inner * y * (inner * y)).sqrt
    length.toModel.unpack = .infinity .positive ∨ length.isFinite = true ∧ 0 ≤ value length ∧
      ∀ j : ℤ, -1074 ≤ j → -537 ≤ j - e → 2 ^ j ≤ max |value x| |value y| →
        2 ^ j ≤ value length := by
  intro length
  have hroot := within_sqrt_sum_squares hix hiy (by decide) (by decide)
  obtain ⟨hsum, hsumpos⟩ := within_sum_squares hix hiy (by decide) (by decide)
  have hpos := ((rounded_sqrt hsum.isFinite hsumpos).nearest_value hroot.isFinite).ge_of_ge
    onGrid_zero (Real.sqrt_nonneg _)
  have hround := rounded_mul ho.1 hroot.isFinite
  rw [ho.2] at hround
  refine (hround.of_nonneg (mul_nonneg (by positivity) hpos)).symm.imp_right fun ⟨hf, hlength⟩ => ?_
  refine ⟨hf, hlength, fun j hj hje hle => ?_⟩
  have hscaled : (2 : ℝ) ^ (-e + j) ≤ max |value (inner * x)| |value (inner * y)| := by
    rcases le_max_iff.1 hle with h | h
    · exact le_max_of_le_left (le_abs_scaled hi hx hix.isFinite (by omega) h)
    · exact le_max_of_le_right (le_abs_scaled hi hy hiy.isFinite (by omega) h)
  have hroot' :=
    le_sqrt_sum_squares (hix.mono (by decide)) (hiy.mono (by decide)) (by omega) hscaled
  refine (hround.nearest_value hf).ge_of_ge (onGrid_two_zpow hj) ?_
  calc (2 : ℝ) ^ j = 2 ^ e * 2 ^ (-e + j) := by
        rw [← zpow_add₀ two_ne_zero]
        congr 1
        ring
    _ ≤ _ := mul_le_mul_of_nonneg_left hroot' (by positivity)

/-- Every finite double is within the power of two above the greatest one. -/
theorem within_of_isFinite (hx : x.isFinite = true) : Within 1024 x :=
  ⟨hx, (abs_value_le x).trans greatestValue_lt.le⟩

/-- The length of a vector with finite components is finite or positive infinity, and not below a
power of two that is not above the longer component. -/
theorem le_hypot (hx : x.isFinite = true) (hy : y.isFinite = true) :
    (hypot x y).toModel.unpack = .infinity .positive ∨
      (hypot x y).isFinite = true ∧ 0 ≤ value (hypot x y) ∧
        ∀ j : ℤ, -1074 ≤ j → 2 ^ j ≤ max |value x| |value y| → 2 ^ j ≤ value (hypot x y) := by
  rcases hypot_cases hx hy with ⟨hgreat, heq⟩ | ⟨hsmall, heq⟩ | ⟨hgreat, hsmall, heq⟩
  · have hwx := within_scaled value_nearScale (within_of_isFinite hx) (by decide) (by decide)
    have hwy := within_scaled value_nearScale (within_of_isFinite hy) (by decide) (by decide)
    rw [heq]
    refine (le_scaled_hypot value_nearScale value_farScale hx hy (hwx.mono (by decide))
      (hwy.mono (by decide))).imp_right fun ⟨hf, hpos, hlow⟩ => ⟨hf, hpos, fun j hj hle => ?_⟩
    -- Below the power of two that the longer component exceeds, nothing has to be shown.
    rcases le_or_gt 500 j with h | h
    · exact hlow j hj (by omega) hle
    · have hgrid : (2 : ℝ) ^ j ≤ 2 ^ (500 : ℤ) := zpow_le_zpow_right₀ one_le_two h.le
      exact hgrid.trans (hlow 500 (by decide) (by decide) hgreat.le)
  · have hwx : Within (-400) x := ⟨hx, (le_max_left ..).trans hsmall.le⟩
    have hwy : Within (-400) y := ⟨hy, (le_max_right ..).trans hsmall.le⟩
    have hwx' := within_scaled value_farScale hwx (by decide) (by decide)
    have hwy' := within_scaled value_farScale hwy (by decide) (by decide)
    rw [heq]
    refine (le_scaled_hypot (e := -600) value_farScale value_nearScale hx hy
      (hwx'.mono (by decide)) (hwy'.mono (by decide))).imp_right fun ⟨hf, hpos, hlow⟩ => ?_
    exact ⟨hf, hpos, fun j hj hle => hlow j hj (by omega) hle⟩
  · have hwx : Within 500 x := ⟨hx, (le_max_left ..).trans hgreat⟩
    have hwy : Within 500 y := ⟨hy, (le_max_right ..).trans hgreat⟩
    have hroot := within_sqrt_sum_squares hwx hwy (by decide) (by decide)
    have hlow : ∀ j : ℤ, -537 ≤ j → 2 ^ j ≤ max |value x| |value y| →
        (2 : ℝ) ^ j ≤ value (x * x + y * y).sqrt := fun j hj =>
      le_sqrt_sum_squares (hwx.mono (by decide)) (hwy.mono (by decide)) hj
    have hleast := hlow (-400) (by decide) hsmall
    rw [heq]
    refine .inr ⟨hroot.isFinite, (by positivity : (0 : ℝ) ≤ 2 ^ (-400 : ℤ)).trans hleast,
      fun j hj hle => ?_⟩
    rcases le_or_gt (-400) j with h | h
    · exact hlow j (by omega) hle
    · have hgrid : (2 : ℝ) ^ j ≤ 2 ^ (-400 : ℤ) := zpow_le_zpow_right₀ one_le_two h.le
      exact hgrid.trans hleast

/-- The value of a double is a multiple of the least one. -/
theorem two_zpow_le_abs_value {a : Float} (h : value a ≠ 0) :
    (2 : ℝ) ^ (-1074 : ℤ) ≤ |value a| := by
  obtain ⟨n, e, -, he, hv⟩ := onGrid_value a
  have hn : n ≠ 0 := by
    rintro rfl
    exact h (by rw [hv, Int.cast_zero, zero_mul])
  have hone : (1 : ℝ) ≤ |(n : ℝ)| := by exact_mod_cast Int.one_le_abs hn
  rw [hv, abs_mul, abs_of_pos (show (0 : ℝ) < 2 ^ e by positivity)]
  calc (2 : ℝ) ^ (-1074 : ℤ) ≤ 2 ^ e := zpow_le_zpow_right₀ one_le_two he
    _ ≤ |(n : ℝ)| * 2 ^ e := le_mul_of_one_le_left (by positivity) hone

/-- The length of a vector with finite components is positive infinity, or finite and at least half
of the longer component. -/
theorem abs_le_two_mul_hypot (hx : x.isFinite = true) (hy : y.isFinite = true) :
    (hypot x y).toModel.unpack = .infinity .positive ∨
      (hypot x y).isFinite = true ∧ max |value x| |value y| ≤ 2 * value (hypot x y) := by
  refine (le_hypot hx hy).imp_right fun ⟨hf, hpos, hlow⟩ => ⟨hf, ?_⟩
  rcases eq_or_ne (max |value x| |value y|) 0 with hzero | hne
  · rw [hzero]
    linarith
  · have hmax : 0 < max |value x| |value y| :=
      lt_of_le_of_ne (le_max_of_le_left (abs_nonneg _)) hne.symm
    obtain ⟨j, hj, hj'⟩ := exists_mem_Ico_zpow hmax one_lt_two
    have hleast : (2 : ℝ) ^ (-1074 : ℤ) ≤ max |value x| |value y| := by
      rcases max_choice |value x| |value y| with h | h <;> rw [h] at hne ⊢
      · exact two_zpow_le_abs_value (abs_ne_zero.1 hne)
      · exact two_zpow_le_abs_value (abs_ne_zero.1 hne)
    have hexponent : -1074 < j + 1 := (zpow_lt_zpow_iff_right₀ one_lt_two).1 (hleast.trans_lt hj')
    have := hlow j (by omega) hj
    rw [zpow_add_one₀ two_ne_zero] at hj'
    linarith

/-- The length of a vector whose components are not very great is finite. -/
theorem within_hypot (hx : Within 1000 x) (hy : Within 1000 y) : Within 1001 (hypot x y) := by
  rcases hypot_cases hx.isFinite hy.isFinite with ⟨-, heq⟩ | ⟨hsmall, heq⟩ | ⟨hgreat, -, heq⟩
  · have hwx := within_scaled value_nearScale hx (by decide) (by decide)
    have hwy := within_scaled value_nearScale hy (by decide) (by decide)
    have hroot := within_sqrt_sum_squares hwx hwy (by decide) (by decide)
    rw [heq]
    exact within_scaled value_farScale hroot (by decide) (by decide)
  · have hwx : Within (-400) x := ⟨hx.isFinite, (le_max_left ..).trans hsmall.le⟩
    have hwy : Within (-400) y := ⟨hy.isFinite, (le_max_right ..).trans hsmall.le⟩
    have hwx' := within_scaled value_farScale hwx (by decide) (by decide)
    have hwy' := within_scaled value_farScale hwy (by decide) (by decide)
    have hroot := within_sqrt_sum_squares hwx' hwy' (by decide) (by decide)
    rw [heq]
    exact (within_scaled value_nearScale hroot (by decide) (by decide)).mono (by decide)
  · have hwx : Within 500 x := ⟨hx.isFinite, (le_max_left ..).trans hgreat⟩
    have hwy : Within 500 y := ⟨hy.isFinite, (le_max_right ..).trans hgreat⟩
    rw [heq]
    exact (within_sqrt_sum_squares hwx hwy (by decide) (by decide)).mono (by decide)

/-- A vector whose length is too great for a double has a great component. -/
theorem lt_max_of_hypot (hx : x.isFinite = true) (hy : y.isFinite = true)
    (h : ¬ (hypot x y).isFinite = true) : 2 ^ (1000 : ℤ) < max |value x| |value y| := by
  by_contra hle
  have hbound := not_lt.1 hle
  exact h (within_hypot ⟨hx, (le_max_left ..).trans hbound⟩
    ⟨hy, (le_max_right ..).trans hbound⟩).isFinite

end Hypot

end NeighborGraph.Double
