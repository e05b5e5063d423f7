import NeighborGraph.Geometry.Point
import NeighborGraph.Proofs.Scalar.Length

/-!
# Clamped vectors

`Point.clampLength` answers with finite components for every vector, also for one with components
that are infinite or undefined, and they do not exceed the limit by more than two bits
(`Point.within_clampLength`). Each of its branches multiplies a vector by the limit over its own
length (`Double.within_mul_div`).
-/

namespace NeighborGraph

namespace Double

open Float.Model Float.Model.UnpackedFloat

/-- Infinity is not below a finite number. -/
theorem not_le_of_infinity {a b : Float} (ha : a.toModel.unpack = .infinity .positive)
    (hb : b.isFinite = true) : ¬ a ≤ b := by
  intro hle
  rw [le_iff_compare, ha] at hle
  cases hu : b.toModel.unpack with
  | infinity sign => exact ne_infinity hb sign hu
  | notANumber =>
    rw [hu] at hle
    cases hle
  | zero sign =>
    rw [hu] at hle
    cases hle
  | finite sign m e h =>
    rw [hu] at hle
    cases hle

/-- A component of a vector times a limit over the length of the vector. -/
theorem within_mul_div {a limit length : Float} {k : ℤ} (ha : a.isFinite = true)
    (hlimit : Within k limit) (hlength : length.isFinite = true) (hpos : 0 < value length)
    (hlong : |value a| ≤ 2 * value length) (hratio : |value limit| / value length ≤ 2 ^ (1000 : ℤ))
    (hlow : -1074 ≤ k + 2) (hhigh : k + 2 ≤ 1023) : Within (k + 2) (a * (limit / length)) := by
  have hdiv := rounded_div hlimit.isFinite hlength hpos.ne'
  have habs : |value limit / value length| = |value limit| / value length := by
    rw [abs_div, abs_of_pos hpos]
  have hw : Within 1000 (limit / length) := hdiv.within (by decide) (by decide) (by rwa [habs])
  have hbound := (hdiv.nearest_value hw.isFinite).abs_le_two_mul
  refine (rounded_mul ha hw.isFinite).within hlow hhigh ?_
  rw [habs] at hbound
  calc |value a * value (limit / length)| = |value a| * |value (limit / length)| := abs_mul ..
    _ ≤ 2 * value length * (2 * (|value limit| / value length)) :=
        mul_le_mul hlong hbound (abs_nonneg _) (by positivity)
    _ = |value limit| * 2 ^ (2 : ℤ) := by field_simp
    _ ≤ 2 ^ k * 2 ^ (2 : ℤ) := mul_le_mul_of_nonneg_right hlimit.bound (by positivity)
    _ = 2 ^ (k + 2) := (zpow_add₀ two_ne_zero ..).symm

/-- The inverse of a great number is at most twice what it would be exactly, and not too small. -/
theorem value_inverse {a : Float} (ha : a.isFinite = true) (h : 2 ^ (1000 : ℤ) < value a) :
    (Float.ofNat 1 / a).isFinite = true ∧ |value (Float.ofNat 1 / a)| ≤ 2 * (1 / value a) ∧
      2 ^ (-1024 : ℤ) ≤ |value (Float.ofNat 1 / a)| := by
  obtain ⟨hone, hvone⟩ := value_ofNat (n := 1) (by decide)
  rw [Nat.cast_one] at hvone
  have hpos : 0 < value a := lt_trans (by positivity) h
  have hle : value a ≤ 2 ^ (1024 : ℤ) := (le_abs_self _).trans (within_of_isFinite ha).bound
  have hdiv := rounded_div hone ha hpos.ne'
  rw [hvone] at hdiv
  have habs : |1 / value a| = 1 / value a := abs_of_pos (by positivity)
  have hinv : |1 / value a| ≤ 2 ^ (0 : ℤ) := by
    rw [habs, div_le_iff₀ hpos, zpow_zero, one_mul]
    exact le_trans (one_le_zpow₀ one_le_two (by decide)) h.le
  have hfinite := (hdiv.within (by decide) (by decide) hinv).isFinite
  have hnearest := hdiv.nearest_value hfinite
  refine ⟨hfinite, habs ▸ hnearest.abs_le_two_mul, ?_⟩
  refine hnearest.le_abs_of_le_abs (onGrid_two_zpow (by decide)) ?_
  rw [habs, zpow_neg, ← one_div]
  exact one_div_le_one_div_of_le hpos hle

/-- A number times the inverse of a great one that is not smaller than it. -/
theorem within_mul_inverse {c factor : Float} {m : ℝ} (hc : c.isFinite = true)
    (hfactor : factor.isFinite = true) (hm : 0 < m) (hle : |value c| ≤ m)
    (hupper : |value factor| ≤ 2 * (1 / m)) : Within 1 (c * factor) := by
  refine (rounded_mul hc hfactor).within (by decide) (by decide) ?_
  calc |value c * value factor| = |value c| * |value factor| := abs_mul ..
    _ ≤ m * (2 * (1 / m)) := mul_le_mul hle hupper (abs_nonneg _) hm.le
    _ = 2 ^ (1 : ℤ) := by field_simp

/-- A great number times about its inverse is not small. -/
theorem le_abs_mul_inverse {c factor : Float} (hc : c.isFinite = true)
    (hfactor : factor.isFinite = true) (hproduct : (c * factor).isFinite = true)
    (hlong : 2 ^ (1000 : ℤ) < |value c|) (hlower : 2 ^ (-1024 : ℤ) ≤ |value factor|) :
    2 ^ (-24 : ℤ) ≤ |value (c * factor)| := by
  refine ((rounded_mul hc hfactor).nearest_value hproduct).le_abs_of_le_abs
    (onGrid_two_zpow (by decide)) ?_
  calc (2 : ℝ) ^ (-24 : ℤ) = 2 ^ (1000 : ℤ) * 2 ^ (-1024 : ℤ) := by
        rw [← zpow_add₀ two_ne_zero]
        rfl
    _ ≤ |value c| * |value factor| := mul_le_mul hlong.le hlower (by positivity) (abs_nonneg _)
    _ = |value c * value factor| := (abs_mul ..).symm

end Double

namespace Point

open Double

/-- Both components are finite, and their distance from zero is at most a power of two. -/
structure Within (k : ℤ) (p : Point Float) : Prop where
  x : Double.Within k p.x
  y : Double.Within k p.y

/-- A vector within a bound is within a greater one. -/
theorem Within.mono {j k : ℤ} {p : Point Float} (h : p.Within j) (hle : j ≤ k) : p.Within k :=
  ⟨h.x.mono hle, h.y.mono hle⟩

/-- The length of a vector within a bound is at most twice as large, and does not overflow. -/
theorem Within.length {p : Point Float} (h : p.Within 1000) : Double.Within 1001 p.length :=
  within_hypot h.x h.y

/-- A vector is finite if both of its components are. -/
theorem isFinite_iff (p : Point Float) :
    p.isFinite = true ↔ p.x.isFinite = true ∧ p.y.isFinite = true :=
  Bool.and_eq_true_iff

variable {k : ℤ} {limit : Float}

/-- A vector that is scaled to a length has components not above that length, up to two bits. -/
theorem within_scale_div {q : Point Float} (hx : q.x.isFinite = true) (hy : q.y.isFinite = true)
    (hlimit : Double.Within k limit) (hlength : q.length.isFinite = true)
    (hpos : 0 < value q.length) (hratio : |value limit| / value q.length ≤ 2 ^ (1000 : ℤ))
    (hlow : -1074 ≤ k) (hhigh : k ≤ 900) : (q.scale (limit / q.length)).Within (k + 2) := by
  have hlong : max |value q.x| |value q.y| ≤ 2 * value q.length :=
    ((abs_le_two_mul_hypot hx hy).resolve_left (ne_infinity hlength _)).2
  exact ⟨within_mul_div hx hlimit hlength hpos ((le_max_left ..).trans hlong) hratio (by omega)
      (by omega),
    within_mul_div hy hlimit hlength hpos ((le_max_right ..).trans hlong) hratio (by omega)
      (by omega)⟩

/-- A vector of moderate length is scaled to a limit. -/
theorem within_scale_div_of_le {q : Point Float} (hq : q.Within 1000) {j : ℤ} (hj : -100 ≤ j)
    (hlong : 2 ^ j ≤ max |value q.x| |value q.y|) (hlimit : Double.Within k limit)
    (hlow : -1074 ≤ k) (hhigh : k ≤ 900) : (q.scale (limit / q.length)).Within (k + 2) := by
  have hlength := hq.length
  have hge : 2 ^ j ≤ value q.length :=
    ((le_hypot hq.x.isFinite hq.y.isFinite).resolve_left
      (ne_infinity hlength.isFinite _)).2.2 j (by omega) hlong
  have hpos : 0 < value q.length := lt_of_lt_of_le (by positivity) hge
  refine within_scale_div hq.x.isFinite hq.y.isFinite hlimit hlength.isFinite hpos ?_ hlow hhigh
  calc |value limit| / value q.length ≤ 2 ^ k / 2 ^ j :=
        div_le_div₀ (by positivity) hlimit.bound (by positivity) hge
    _ = 2 ^ (k - j) := (zpow_sub₀ two_ne_zero ..).symm
    _ ≤ 2 ^ (1000 : ℤ) := zpow_le_zpow_right₀ one_le_two (by omega)

/-- A vector whose length overflows, divided by its longer component, is of moderate length. -/
theorem within_unit {p : Point Float} (hx : p.x.isFinite = true) (hy : p.y.isFinite = true)
    (hlong : 2 ^ (1000 : ℤ) < max |value p.x| |value p.y|) :
    let unit := p.scale (1 / Scalar.greater (Scalar.abs p.x) (Scalar.abs p.y))
    unit.Within 1 ∧ 2 ^ (-24 : ℤ) ≤ max |value unit.x| |value unit.y| := by
  obtain ⟨hfx, hvx⟩ := value_abs hx
  obtain ⟨hfy, hvy⟩ := value_abs hy
  obtain ⟨hf, hv⟩ := value_greater hfx hfy
  rw [hvx, hvy] at hv
  rw [← hv] at hlong
  obtain ⟨hfactor, hupper, hlower⟩ := value_inverse hf hlong
  have hpos := lt_trans (by positivity) hlong
  have hwx : Double.Within 1 (p.x * _) :=
    within_mul_inverse hx hfactor hpos (hv ▸ le_max_left ..) hupper
  have hwy : Double.Within 1 (p.y * _) :=
    within_mul_inverse hy hfactor hpos (hv ▸ le_max_right ..) hupper
  refine ⟨⟨hwx, hwy⟩, ?_⟩
  rw [hv] at hlong
  rcases max_choice |value p.x| |value p.y| with h | h <;> rw [h] at hlong
  · exact le_max_of_le_left (le_abs_mul_inverse hx hfactor hwx.isFinite hlong hlower)
  · exact le_max_of_le_right (le_abs_mul_inverse hy hfactor hwy.isFinite hlong hlower)

/-- The sign of a coordinate is zero, or a number of distance one from zero. -/
theorem within_signOf (a : Float) :
    Double.Within 0 (signOf a) ∧ (signOf a = 0 ∨ 2 ^ (0 : ℤ) ≤ |value (signOf a)|) := by
  have hone : (1 : Float).isFinite = true ∧ |value (1 : Float)| = 1 := by
    obtain ⟨hf, hv⟩ := value_ofNat (n := 1) (by decide)
    exact ⟨hf, (congrArg abs hv).trans (by norm_num)⟩
  have hminus : (-1 : Float).isFinite = true ∧ |value (-1 : Float)| = 1 := by
    refine ⟨by decide +kernel, ?_⟩
    rw [value, show (-1 : Float).toModel.unpack = .finite .negative (2 ^ 52) (-52) (by decide) from
      rfl, unpackedValue_finite, abs_signed]
    norm_num
  unfold signOf
  split
  · exact ⟨⟨hone.1, hone.2.le.trans (by norm_num)⟩, .inr (by rw [zpow_zero]; exact hone.2.ge)⟩
  · split
    · refine ⟨⟨hminus.1, hminus.2.le.trans (by norm_num)⟩, .inr ?_⟩
      rw [zpow_zero]
      exact hminus.2.ge
    · exact ⟨within_zero 0, .inl rfl⟩

/-- The zero vector is within every bound. -/
theorem within_origin (k : ℤ) : (origin : Point Float).Within k := ⟨within_zero k, within_zero k⟩

/-- A vector that is not longer than a limit. -/
theorem within_of_length_le {p : Point Float} (hx : p.x.isFinite = true) (hy : p.y.isFinite = true)
    (hlimit : Double.Within k limit) (hle : p.length ≤ limit) : p.Within (k + 1) := by
  have ⟨hf, hlong⟩ := (abs_le_two_mul_hypot hx hy).resolve_left
    fun h => not_le_of_infinity h hlimit.isFinite hle
  have hbound : max |value p.x| |value p.y| ≤ 2 ^ (k + 1) := by
    have hle' := (le_iff hf hlimit.isFinite).1 hle
    rw [zpow_add_one₀ two_ne_zero]
    linarith [le_abs_self (value limit), hlimit.bound]
  exact ⟨⟨hx, (le_max_left ..).trans hbound⟩, ⟨hy, (le_max_right ..).trans hbound⟩⟩

/-- Of the signs of a vector that points somewhere, one is not zero. -/
theorem le_max_signOf {a b : Float} (h : 0 < (⟨signOf a, signOf b⟩ : Point Float).length) :
    2 ^ (0 : ℤ) ≤ max |value (signOf a)| |value (signOf b)| := by
  rcases (within_signOf a).2 with ha | ha
  · rcases (within_signOf b).2 with hb | hb
    · rw [ha, hb] at h
      exact absurd h (by decide +kernel)
    · exact le_max_of_le_right hb
  · exact le_max_of_le_left ha

/-- Clamping answers with finite components for every vector; they are not above the limit, up to
two bits. -/
theorem within_clampLength (hlimit : Double.Within k limit) (hpos : 0 ≤ value limit)
    (hlow : -1074 ≤ k) (hhigh : k ≤ 900) (p : Point Float) :
    (p.clampLength limit).Within (k + 2) := by
  unfold clampLength
  split
  · next hfinite =>
    obtain ⟨hx, hy⟩ := (isFinite_iff p).1 hfinite
    dsimp only
    split
    · next hle => exact (within_of_length_le hx hy hlimit hle).mono (by omega)
    · next hgt =>
      split
      · next hlength =>
        have hlt : value limit < value p.length :=
          not_le.1 fun h => hgt ((le_iff hlength hlimit.isFinite).2 h)
        have hlengthPos := hpos.trans_lt hlt
        refine within_scale_div hx hy hlimit hlength hlengthPos ?_ hlow hhigh
        rw [abs_of_nonneg hpos]
        exact ((div_lt_one hlengthPos).2 hlt).le.trans (one_le_zpow₀ one_le_two (by decide))
      · next hlength =>
        obtain ⟨hunit, hge⟩ := within_unit hx hy (lt_max_of_hypot hx hy hlength)
        exact within_scale_div_of_le (hunit.mono (by decide)) (by decide) hge hlimit hlow hhigh
  · dsimp only
    split
    · next hlength =>
      have hsigns : Within 1000 (⟨signOf p.x, signOf p.y⟩ : Point Float) :=
        ⟨(within_signOf p.x).1.mono (by decide), (within_signOf p.y).1.mono (by decide)⟩
      exact within_scale_div_of_le hsigns (by decide) (le_max_signOf hlength) hlimit hlow hhigh
    · exact within_origin _

end Point

end NeighborGraph
