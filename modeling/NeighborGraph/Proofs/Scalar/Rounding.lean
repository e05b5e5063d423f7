import NeighborGraph.Proofs.Scalar.Canonical

/-!
# Rounding to the nearest

The reals with at most 53 significant bits that are multiples of the least double form a grid
(`Double.OnGrid`): doubles are on it, but exponents have no upper end there. A real is rounded to
the point of the grid that is nearest to it (`Double.Nearest`). From this alone follows how far
rounding can go: it never passes a point of the grid (`Nearest.le_of_le`), it at most doubles a
number (`Nearest.abs_le_two_mul`), a point of the grid absorbs what is less than half a step from
it (`Nearest.le_of_lt_add`, `Nearest.ge_of_sub_lt`), and no number moves by more than half a step
(`Nearest.abs_sub_le_half`, `Nearest.abs_sub_le_mul`). The rounding of unpacked numbers is one of
this kind, from whatever mantissa and accuracy it starts (`Double.isRounding_roundWithAccuracy`,
`Double.isRounding_normalize`).
-/

namespace NeighborGraph.Double

open Float.Model Float.Model.UnpackedFloat

/-! ## The grid -/

/-- Zero is on the grid. -/
theorem onGrid_zero : OnGrid 0 := ⟨0, 0, by decide, by decide, by simp⟩

/-- The grid is symmetric. -/
theorem OnGrid.neg {x : ℝ} (h : OnGrid x) : OnGrid (-x) := by
  obtain ⟨n, e, hn, he, rfl⟩ := h
  exact ⟨-n, e, by rwa [abs_neg], he, by push_cast; ring⟩

/-- The powers of two are on the grid, from that of the least double on. -/
theorem onGrid_two_zpow {k : ℤ} (hk : -1074 ≤ k) : OnGrid (2 ^ k) :=
  ⟨1, k, by decide, hk, by simp⟩

/-- A multiple of a power of two with at most 53 bits. -/
theorem onGrid_mul_zpow {n e : ℤ} (hn : |n| ≤ 2 ^ 53) (he : -1074 ≤ e) :
    OnGrid (n * 2 ^ e) := by
  rcases hn.lt_or_eq with hlt | heq
  · exact ⟨n, e, hlt, he, rfl⟩
  · have hpow : OnGrid (2 ^ (53 + e)) := onGrid_two_zpow (by omega)
    rw [zpow_add₀ two_ne_zero] at hpow
    rcases (abs_eq (by decide)).1 heq with rfl | rfl
    · exact_mod_cast hpow
    · rw [Int.cast_neg, neg_mul]
      exact_mod_cast hpow.neg

/-- A point of the grid that is not below a power of two is written with a great exponent. -/
theorem OnGrid.exists_exponent {x : ℝ} {k : ℤ} (hx : OnGrid x) (h : 2 ^ k ≤ |x|) :
    ∃ n e : ℤ, |n| < 2 ^ 53 ∧ k - 52 ≤ e ∧ x = n * 2 ^ e := by
  obtain ⟨n, e, hn, -, rfl⟩ := hx
  refine ⟨n, e, hn, ?_, rfl⟩
  have hpos : (0 : ℝ) < 2 ^ e := by positivity
  have hn' : |(n : ℝ)| < 2 ^ (53 : ℤ) := by exact_mod_cast hn
  rw [abs_mul, abs_of_pos hpos] at h
  have hlt : (2 : ℝ) ^ k < 2 ^ (53 + e) := by
    rw [zpow_add₀ two_ne_zero]
    exact h.trans_lt (mul_lt_mul_of_pos_right hn' hpos)
  have := (zpow_lt_zpow_iff_right₀ one_lt_two).1 hlt
  omega

/-- The multiples of a power of two include those of the greater ones. -/
theorem exists_mul_zpow_eq {e t : ℤ} (h : t ≤ e) (n : ℤ) :
    ∃ m : ℤ, (n : ℝ) * 2 ^ e = m * 2 ^ t := by
  obtain ⟨j, hj⟩ := Int.eq_ofNat_of_zero_le (sub_nonneg.2 h)
  refine ⟨n * 2 ^ j, ?_⟩
  rw [show e = (j : ℤ) + t by omega, zpow_add₀ two_ne_zero, zpow_natCast]
  push_cast
  ring

/-- From a power of two on the grid goes on in steps that are smaller by 52 bits. -/
theorem OnGrid.add_step_le {g x : ℝ} {k : ℤ} (hg : OnGrid g) (hx : OnGrid x) (hk : 2 ^ k ≤ g)
    (h : g < x) : g + 2 ^ (k - 52) ≤ x := by
  have hstep : (0 : ℝ) < 2 ^ (k - 52) := by positivity
  obtain ⟨n, e, -, he, hn⟩ := hg.exists_exponent (hk.trans (le_abs_self g))
  obtain ⟨n', e', -, he', hn'⟩ := hx.exists_exponent ((hk.trans h.le).trans (le_abs_self x))
  obtain ⟨a, ha⟩ := exists_mul_zpow_eq he n
  obtain ⟨b, hb⟩ := exists_mul_zpow_eq he' n'
  rw [hn, hn', ha, hb] at h ⊢
  have hint : (a : ℝ) + 1 ≤ b := by
    exact_mod_cast Int.add_one_le_iff.2 (Int.cast_lt.1 (lt_of_mul_lt_mul_right h hstep.le))
  linarith [mul_le_mul_of_nonneg_right hint hstep.le]

/-- No point of the grid is nearer to `x` than `y`, which is on the grid. -/
structure Nearest (x y : ℝ) : Prop where
  onGrid : OnGrid y
  abs_sub_le : ∀ g, OnGrid g → |y - x| ≤ |g - x|

namespace Nearest

variable {x y g : ℝ}

/-- The nearest point is found on either side of zero alike. -/
theorem neg (h : Nearest x y) : Nearest (-x) (-y) := by
  refine ⟨h.onGrid.neg, fun g hg => ?_⟩
  calc |-y - -x| = |y - x| := by rw [neg_sub_neg, abs_sub_comm]
    _ ≤ |-g - x| := h.abs_sub_le (-g) hg.neg
    _ = |g - -x| := by rw [← abs_neg, neg_sub, sub_neg_eq_add, sub_neg_eq_add, add_comm]

/-- What is on the grid is rounded to itself. -/
theorem refl (hx : OnGrid x) : Nearest x x := by
  refine ⟨hx, fun g _ => ?_⟩
  rw [sub_self, abs_zero]
  exact abs_nonneg _

/-- Rounding does not go above a point of the grid. -/
theorem le_of_le (h : Nearest x y) (hg : OnGrid g) (hxg : x ≤ g) : y ≤ g := by
  by_contra hlt
  have := h.abs_sub_le g hg
  rw [abs_of_nonneg (by linarith), abs_of_nonneg (by linarith)] at this
  linarith

/-- Rounding does not go below a point of the grid. -/
theorem ge_of_ge (h : Nearest x y) (hg : OnGrid g) (hgx : g ≤ x) : g ≤ y := by
  have := h.neg.le_of_le hg.neg (neg_le_neg hgx)
  linarith

/-- A real no farther from zero than a point of the grid has a nearest point that is no farther. -/
theorem abs_le_of_abs_le (h : Nearest x y) (hg : OnGrid g) (hxg : |x| ≤ g) : |y| ≤ g := by
  obtain ⟨hlow, hhigh⟩ := abs_le.1 hxg
  exact abs_le.2 ⟨h.ge_of_ge hg.neg hlow, h.le_of_le hg hhigh⟩

/-- A real at least as far from zero as a point of the grid has a nearest point that is at least as
far. -/
theorem le_abs_of_le_abs (h : Nearest x y) (hg : OnGrid g) (hgx : g ≤ |x|) : g ≤ |y| := by
  rcases le_abs'.1 hgx with hneg | hpos
  · have := h.le_of_le hg.neg (by linarith)
    exact (by linarith : g ≤ -y).trans (neg_le_abs y)
  · exact (h.ge_of_ge hg hpos).trans (le_abs_self y)

/-- Rounding at most doubles a number. -/
theorem abs_le_two_mul (h : Nearest x y) : |y| ≤ 2 * |x| := by
  have hzero := h.abs_sub_le 0 onGrid_zero
  rw [zero_sub, abs_neg] at hzero
  have := abs_sub_abs_le_abs_sub y x
  linarith

/-- Rounding goes down to a point of the grid from what exceeds it by less than half a step. -/
theorem le_of_lt_add {k : ℤ} (h : Nearest x y) (hg : OnGrid g) (hk : 2 ^ k ≤ g)
    (hx : x < g + 2 ^ (k - 53)) : y ≤ g := by
  by_contra hlt
  have hstep := hg.add_step_le h.onGrid hk (not_le.1 hlt)
  have hhalf : (2 : ℝ) ^ (k - 52) = 2 * 2 ^ (k - 53) := by
    rw [show k - 52 = 1 + (k - 53) by ring, zpow_add₀ two_ne_zero, zpow_one]
  have hnear := h.abs_sub_le g hg
  have hpos : (0 : ℝ) < 2 ^ (k - 53) := by positivity
  rw [abs_of_nonneg (by linarith)] at hnear
  rcases abs_cases (g - x) with ⟨he, -⟩ | ⟨he, -⟩ <;> rw [he] at hnear <;> linarith

end Nearest

/-! ## Mantissas with residual bits -/

/-- The mantissa with its residual bits is what is known of the real after its digits have been cut
off at the unit: where it lies between the mantissa and the next natural number, and which of the
two is nearer. -/
def Truncates (em : ExtendedMantissa) (x : ℝ) : Prop :=
  match em.roundBit, em.stickyBit with
  | false, false => x = em.mantissa
  | false, true => em.mantissa < x ∧ x - em.mantissa < em.mantissa + 1 - x
  | true, false => x - em.mantissa = em.mantissa + 1 - x
  | true, true => em.mantissa + 1 - x < x - em.mantissa ∧ x < em.mantissa + 1

namespace Truncates

variable {em : ExtendedMantissa} {mantissa : Nat} {x : ℝ}

/-- A natural number is what it is without anything cut off. -/
theorem exact (mantissa : Nat) : Truncates (.ofMantissaAndAccuracy mantissa .exact) mantissa := rfl

/-- What is cut off is less than half. -/
theorem below (hlow : mantissa < x) (hhigh : x < mantissa + 1 / 2) :
    Truncates (.ofMantissaAndAccuracy mantissa (.inexact .lt)) x := by
  have hnearer : x - mantissa < mantissa + 1 - x := by linarith
  exact ⟨hlow, hnearer⟩

/-- What is cut off is half. -/
theorem half (h : x = mantissa + 1 / 2) :
    Truncates (.ofMantissaAndAccuracy mantissa (.inexact .eq)) x := by
  have hmiddle : x - mantissa = mantissa + 1 - x := by linarith
  exact hmiddle

/-- What is cut off is more than half. -/
theorem above (hlow : mantissa + 1 / 2 < x) (hhigh : x < mantissa + 1) :
    Truncates (.ofMantissaAndAccuracy mantissa (.inexact .gt)) x := by
  have hfarther : mantissa + 1 - x < x - mantissa := by linarith
  exact ⟨hfarther, hhigh⟩

/-- The mantissa is not above the real. -/
theorem mantissa_le (h : Truncates em x) : (em.mantissa : ℝ) ≤ x := by
  obtain ⟨mantissa, _ | _, _ | _⟩ := em <;> simp only [Truncates] at h ⊢ <;> linarith

/-- The real is below the next natural number. -/
theorem lt_mantissa_add_one (h : Truncates em x) : x < em.mantissa + 1 := by
  obtain ⟨mantissa, _ | _, _ | _⟩ := em <;> simp only [Truncates] at h ⊢ <;> linarith

/-- Shifting the mantissa by a bit halves the real. -/
theorem shiftRightOne (h : Truncates em x) : Truncates em.shiftRightOne (x / 2) := by
  obtain ⟨mantissa, roundBit, stickyBit⟩ := em
  have hsplit : (mantissa : ℝ) = 2 * (mantissa / 2 : ℕ) + (mantissa % 2 : ℕ) := by
    exact_mod_cast (Nat.div_add_mod mantissa 2).symm
  rcases Nat.mod_two_eq_zero_or_one mantissa with hbit | hbit <;> rw [hbit] at hsplit <;>
    cases roundBit <;> cases stickyBit <;>
    simp [Truncates, ExtendedMantissa.shiftRightOne, hbit] at h hsplit ⊢ <;>
    first | linarith | (constructor <;> linarith)

/-- Cutting off further digits keeps what is known of them. -/
theorem shiftRight (h : Truncates em x) (n : Nat) : Truncates (em >>> n) (x / 2 ^ n) := by
  change Truncates (Nat.repeat ExtendedMantissa.shiftRightOne n em) (x / 2 ^ n)
  induction n with
  | zero => simpa [Nat.repeat] using h
  | succ n ih =>
    rw [Nat.repeat, pow_succ, ← div_div]
    exact ih.shiftRightOne

/-- The rounded mantissa is within half a unit of the real. -/
theorem abs_roundedMantissa_sub_le (h : Truncates em x) :
    |(em.roundedMantissa : ℝ) - x| ≤ 1 / 2 := by
  obtain ⟨mantissa, roundBit, stickyBit⟩ := em
  have hparity : ((mantissa % 2 : ℕ) : ℝ) = 0 ∨ ((mantissa % 2 : ℕ) : ℝ) = 1 := by
    exact_mod_cast Nat.mod_two_eq_zero_or_one mantissa
  cases roundBit <;> cases stickyBit <;>
    simp only [Truncates, ExtendedMantissa.roundedMantissa, ExtendedMantissa.accuracy,
      Accuracy.roundToNearestEven] at h ⊢ <;>
    push_cast <;> rw [abs_le] <;> constructor <;> rcases hparity with hp | hp <;> linarith

end Truncates

/-- No integer is nearer to a real than one that is within half a unit of it. -/
theorem abs_sub_le_of_abs_sub_le_half {r : ℤ} {x : ℝ} (h : |(r : ℝ) - x| ≤ 1 / 2) (n : ℤ) :
    |(r : ℝ) - x| ≤ |(n : ℝ) - x| := by
  rcases eq_or_ne r n with rfl | hne
  · exact le_rfl
  · have hone : (1 : ℝ) ≤ |(n : ℝ) - r| := by
      exact_mod_cast Int.one_le_abs (sub_ne_zero.2 hne.symm)
    have := abs_sub_le (n : ℝ) x r
    rw [abs_sub_comm x] at this
    linarith

/-- A multiple of a power of two that is within half a step of a real is nearest to it on the grid,
if no number below has more bits than the real, or the step is the least one. -/
theorem nearest_of_abs_sub_le_half {r : ℕ} {t : ℤ} {x : ℝ} (hr : r ≤ 2 ^ 53) (ht : -1074 ≤ t)
    (h : |(r : ℝ) - x / 2 ^ t| ≤ 1 / 2) (hx : t = -1074 ∨ 2 ^ (t + 52) ≤ x) :
    Nearest x (r * 2 ^ t) := by
  have hpos : (0 : ℝ) < 2 ^ t := by positivity
  have hscale : ∀ n : ℤ, |(n : ℝ) * 2 ^ t - x| = |(n : ℝ) - x / 2 ^ t| * 2 ^ t := by
    intro n
    rw [← abs_of_pos hpos, ← abs_mul, abs_of_pos hpos, sub_mul, div_mul_cancel₀ x hpos.ne']
  have hmultiple : ∀ n : ℤ, |(r : ℝ) * 2 ^ t - x| ≤ |(n : ℝ) * 2 ^ t - x| := by
    intro n
    have hint := abs_sub_le_of_abs_sub_le_half (r := (r : ℤ)) (by exact_mod_cast h) n
    have := mul_le_mul_of_nonneg_right hint hpos.le
    rwa [← hscale, ← hscale, Int.cast_natCast] at this
  constructor
  · exact_mod_cast onGrid_mul_zpow (n := r) (by rw [Nat.abs_cast]; exact_mod_cast hr) ht
  · rintro _ ⟨n, e, hn, he, rfl⟩
    rcases le_or_gt t e with hle | hlt
    · obtain ⟨m, hm⟩ := exists_mul_zpow_eq hle n
      rw [hm]
      exact hmultiple m
    · -- A point of a finer step lies below all reals of as many bits as `x`.
      have hlow : (2 : ℝ) ^ (t + 52) ≤ x := hx.resolve_left (by omega)
      have hn' : (n : ℝ) ≤ 2 ^ (53 : ℤ) := by exact_mod_cast (abs_lt.1 hn).2.le
      have hbelow : (n : ℝ) * 2 ^ e ≤ 2 ^ (t + 52) := by
        calc (n : ℝ) * 2 ^ e ≤ 2 ^ (53 : ℤ) * 2 ^ e := by gcongr
          _ = 2 ^ (53 + e) := (zpow_add₀ two_ne_zero _ _).symm
          _ ≤ 2 ^ (t + 52) := zpow_le_zpow_right₀ one_le_two (by omega)
      have hunit : (((2 ^ 52 : ℤ)) : ℝ) * 2 ^ t = 2 ^ (t + 52) := by
        rw [zpow_add₀ two_ne_zero]
        push_cast
        ring
      have := hmultiple (2 ^ 52)
      rw [hunit] at this
      refine this.trans ?_
      rw [abs_sub_comm, abs_sub_comm _ x, abs_of_nonneg (by linarith), abs_of_nonneg (by linarith)]
      linarith

/-! ## Rounding unpacked numbers -/

/-- The real with the given sign put in front. -/
def signed : Sign → ℝ → ℝ
  | .negative, x => -x
  | .positive, x => x

/-- The nearest point has the sign of the real. -/
theorem Nearest.signed {x y : ℝ} (h : Nearest x y) (sign : Sign) :
    Nearest (signed sign x) (signed sign y) := by
  cases sign with
  | negative => exact h.neg
  | positive => exact h

/-- The value of a finite number is its mantissa times a power of two, with its sign. -/
theorem unpackedValue_finite (sign : Sign) (mantissa : Nat) (exponent : Int) (h : 0 < mantissa) :
    unpackedValue (.finite sign mantissa exponent h) = signed sign (mantissa * 2 ^ exponent) := by
  cases sign <;> simp [unpackedValue, Sign.apply, Double.signed]

/-- The exponent that rounding aims at leaves 53 bits, unless it is the least one. -/
theorem targetExponent_eq (mantissa : Nat) (exponent : Int) :
    Format.binary64.targetExponent (totalExponent mantissa exponent) =
      max (mantissa.log2 + exponent - 52) (-1074) := by
  change max ((mantissa.log2 : Int) + 1 + exponent - 53) (-1074) = _
  congr 1
  omega

/-- A rounded mantissa with one bit too many is a power of two, and is shifted by one bit. All
others are left as they are. -/
theorem unpackedValue_shifted {r : Nat} {t : Int} (hr : r ≤ 2 ^ 53) (ht : -1074 ≤ t)
    (hlow : 2 ^ 52 ≤ r ∨ t = -1074) :
    ∃ mantissa exponent,
      (shiftToTargetExponent Format.binary64 r t .exact).1.mantissa = mantissa ∧
      (shiftToTargetExponent Format.binary64 r t .exact).2 = exponent ∧
      (∀ h sign, Canonical (.finite sign mantissa exponent h)) ∧
      (mantissa : ℝ) * 2 ^ exponent = r * 2 ^ t := by
  unfold shiftToTargetExponent
  rw [targetExponent_eq]
  rcases Nat.lt_or_eq_of_le hr with hlt | rfl
  · have hlog : r.log2 ≤ 52 := by
      rcases Nat.eq_zero_or_pos r with rfl | hpos
      · decide
      · exact Nat.le_of_lt_succ ((Nat.log2_lt (Nat.ne_of_gt hpos)).2 hlt)
    have hshift : (max ((r.log2 : Int) + t - 52) (-1074) - t).toNat = 0 := by omega
    refine ⟨r, t, ?_, ?_, fun h _ => ⟨hlt, ht, hlow⟩, rfl⟩
    · simp only [shiftToExponent, hshift]
      rfl
    · simp only [shiftToExponent, hshift]
      exact Int.add_zero t
  · have hlog : (2 ^ 53 : Nat).log2 = 53 := Nat.log2_two_pow
    have hshift : (max (((2 ^ 53 : Nat).log2 : Int) + t - 52) (-1074) - t).toNat = 1 := by
      rw [hlog]
      omega
    refine ⟨2 ^ 52, t + 1, ?_, ?_, fun h _ => ⟨by decide, by omega, .inl le_rfl⟩, ?_⟩
    · simp only [shiftToExponent, hshift]
      rfl
    · simp only [shiftToExponent, hshift]
      rfl
    · rw [zpow_add₀ two_ne_zero]
      push_cast
      ring

/-- The target exponent fits the real that a mantissa is cut off from: counted in its steps, the
real has at most 53 bits, and fewer of them at the least exponent only. -/
theorem Truncates.target {mantissa : Nat} {exponent : Int} {accuracy : Accuracy} {x : ℝ} {t : ℤ}
    (h : Truncates (.ofMantissaAndAccuracy mantissa accuracy) (x / 2 ^ exponent))
    (ht : t = max (mantissa.log2 + exponent - 52) (-1074)) (he : exponent ≤ t) :
    x / 2 ^ t < 2 ^ 53 ∧ (t = -1074 ∨ 2 ^ (t + 52) ≤ x) := by
  have hpos : (0 : ℝ) < 2 ^ exponent := by positivity
  have hcut : (ExtendedMantissa.ofMantissaAndAccuracy mantissa accuracy).mantissa = mantissa := by
    obtain _ | _ | _ | _ := accuracy <;> rfl
  have hlow := h.mantissa_le
  have hhigh := h.lt_mantissa_add_one
  rw [hcut, le_div_iff₀ hpos] at hlow
  rw [hcut, div_lt_iff₀ hpos] at hhigh
  constructor
  · have hlog : (mantissa : ℝ) + 1 ≤ 2 ^ (mantissa.log2 + 1) := by
      exact_mod_cast Nat.lt_log2_self
    rw [div_lt_iff₀ (by positivity)]
    calc x < (mantissa + 1) * 2 ^ exponent := hhigh
      _ ≤ 2 ^ (mantissa.log2 + 1) * 2 ^ exponent := by gcongr
      _ = 2 ^ ((mantissa.log2 : ℤ) + 1 + exponent) := by
        rw [← zpow_natCast, ← zpow_add₀ two_ne_zero]
        push_cast
        rfl
      _ ≤ 2 ^ (53 + t) := zpow_le_zpow_right₀ one_le_two (by omega)
      _ = 2 ^ 53 * 2 ^ t := by
        rw [zpow_add₀ two_ne_zero]
        norm_num
  · refine or_iff_not_imp_left.2 fun hmin => ?_
    have hne : mantissa ≠ 0 := by
      rintro rfl
      rw [Nat.log2_zero] at ht
      omega
    have hlog : (2 : ℝ) ^ mantissa.log2 ≤ mantissa := by exact_mod_cast Nat.log2_self_le hne
    calc (2 : ℝ) ^ (t + 52) = 2 ^ mantissa.log2 * 2 ^ exponent := by
          rw [← zpow_natCast, ← zpow_add₀ two_ne_zero]
          congr 1
          omega
      _ ≤ mantissa * 2 ^ exponent := by gcongr
      _ ≤ x := hlow

/-- What is nearest to a real, counted in steps, has as many bits as the real, or is the next power
of two. -/
theorem bits_of_abs_sub_le_half {x : ℝ} {t : ℤ} {r : ℕ} (h : |r - x / 2 ^ t| ≤ 1 / 2)
    (hx53 : x / 2 ^ t < 2 ^ 53) (hx : t = -1074 ∨ 2 ^ (t + 52) ≤ x) :
    r ≤ 2 ^ 53 ∧ (2 ^ 52 ≤ r ∨ t = -1074) := by
  have hbounds := abs_le.1 h
  refine ⟨?_, hx.symm.imp_left fun hx => ?_⟩
  · have : (r : ℝ) < 2 ^ 53 + 1 := by linarith
    exact Nat.lt_succ_iff.1 (by exact_mod_cast this)
  · have htpos : (0 : ℝ) < 2 ^ t := by positivity
    rw [zpow_add₀ two_ne_zero, mul_comm, ← le_div_iff₀ htpos] at hx
    norm_num at hx
    have : (2 : ℝ) ^ 52 < r + 1 := by linarith
    exact Nat.lt_succ_iff.1 (by exact_mod_cast this)

/-- The unpacked number is what a real is rounded to, before its exponent is looked at. -/
structure IsRounding (x : ℝ) (u : UnpackedFloat) : Prop where
  canonical : Canonical u
  isFinite : u.isFinite = true
  nearest : Nearest x (unpackedValue u)

/-- Rounding a mantissa that is known up to its residual bits gives what the real is rounded to, as
long as no bits are missing. -/
theorem isRounding_roundWithAccuracy {mantissa : Nat} {exponent : Int} {accuracy : Accuracy} {x : ℝ}
    (he : exponent ≤ max (mantissa.log2 + exponent - 52) (-1074))
    (h : Truncates (.ofMantissaAndAccuracy mantissa accuracy) (x / 2 ^ exponent)) (sign : Sign) :
    IsRounding (signed sign x)
      (roundWithAccuracy Format.binary64 sign mantissa exponent accuracy) := by
  obtain ⟨t, ht⟩ : ∃ t : ℤ, t = max (mantissa.log2 + exponent - 52) (-1074) := ⟨_, rfl⟩
  rw [← ht] at he
  obtain ⟨k, hk⟩ := Int.eq_ofNat_of_zero_le (sub_nonneg.2 he)
  obtain ⟨hx53, hx⟩ := h.target ht he
  -- The mantissa is shifted to the target exponent and rounded there.
  have hround := (h.shiftRight k).abs_roundedMantissa_sub_le
  rw [div_div, ← zpow_natCast, ← zpow_add₀ two_ne_zero, ← hk, add_sub_cancel] at hround
  obtain ⟨r, hr⟩ : ∃ r, r =
      (ExtendedMantissa.ofMantissaAndAccuracy mantissa accuracy >>> k).roundedMantissa := ⟨_, rfl⟩
  rw [← hr] at hround
  obtain ⟨hr53, hr52⟩ := bits_of_abs_sub_le_half hround hx53 hx
  have hnear := nearest_of_abs_sub_le_half hr53 (by omega) hround hx
  obtain ⟨m, e, hm, hme, hcanonical, hvalue⟩ :=
    unpackedValue_shifted hr53 (show -1074 ≤ t by omega) hr52
  have hfirst : shiftToTargetExponent Format.binary64 mantissa exponent accuracy =
      (ExtendedMantissa.ofMantissaAndAccuracy mantissa accuracy >>> k, t) := by
    rw [shiftToTargetExponent, shiftToExponent, targetExponent_eq, ← ht, hk, Int.toNat_natCast,
      ← hk, add_sub_cancel]
  have hu : roundWithAccuracy Format.binary64 sign mantissa exponent accuracy =
      if h : m = 0 then .zero sign else .finite sign m e (Nat.pos_of_ne_zero h) := by
    simp only [roundWithAccuracy, hfirst, ← hr, hm, hme]
  rw [← hvalue] at hnear
  rw [hu]
  split
  · next hm0 =>
    rw [hm0, Nat.cast_zero, zero_mul] at hnear
    refine ⟨trivial, rfl, ?_⟩
    have hsigned := hnear.signed sign
    rwa [show signed sign 0 = 0 by cases sign <;> simp [Double.signed]] at hsigned
  · refine ⟨hcanonical _ sign, rfl, ?_⟩
    rw [unpackedValue_finite]
    exact hnear.signed sign

/-- Rounding a mantissa whose bits all count. -/
theorem isRounding_roundWithAccuracy_exact (mantissa : Nat) (exponent : Int)
    (he : exponent ≤ max (mantissa.log2 + exponent - 52) (-1074)) (sign : Sign) :
    IsRounding (signed sign (mantissa * 2 ^ exponent))
      (roundWithAccuracy Format.binary64 sign mantissa exponent .exact) := by
  refine isRounding_roundWithAccuracy he ?_ sign
  rw [mul_div_cancel_right₀ (mantissa : ℝ) (zpow_ne_zero exponent two_ne_zero)]
  exact .exact mantissa

/-- A natural number times a power of two is rounded. -/
theorem isRounding_round (mantissa : Nat) (hpos : 0 < mantissa) (exponent : Int) (sign : Sign) :
    IsRounding (signed sign (mantissa * 2 ^ exponent))
      (UnpackedFloat.round Format.binary64 sign mantissa exponent) := by
  obtain ⟨t, ht⟩ : ∃ t : ℤ, t = max (mantissa.log2 + exponent - 52) (-1074) := ⟨_, rfl⟩
  obtain ⟨k, hk⟩ : ∃ k : ℕ, k = (exponent - t).toNat := ⟨_, rfl⟩
  have hlog : (mantissa * 2 ^ k).log2 = mantissa.log2 + k := by
    have hk := Nat.two_pow_pos k
    refine (Nat.log2_eq_iff (Nat.ne_of_gt (Nat.mul_pos hpos hk))).2 ⟨?_, ?_⟩
    · rw [Nat.pow_add]
      exact Nat.mul_le_mul_right _ (Nat.log2_self_le (Nat.ne_of_gt hpos))
    · rw [Nat.add_right_comm, Nat.pow_add]
      exact Nat.mul_lt_mul_of_pos_right Nat.lt_log2_self hk
  have hround :=
    isRounding_roundWithAccuracy_exact (mantissa * 2 ^ k) (exponent - k) (by omega) sign
  have hvalue : ((mantissa * 2 ^ k : ℕ) : ℝ) * 2 ^ (exponent - k) = mantissa * 2 ^ exponent := by
    rw [zpow_sub₀ two_ne_zero, zpow_natCast]
    push_cast
    field_simp
  rw [hvalue] at hround
  simpa only [UnpackedFloat.round, decreaseExponent, targetExponent_eq, ← ht, ← hk,
    Nat.shiftLeft_eq] using hround

/-- So is an integer, with the sign of a zero to choose. -/
theorem isRounding_normalize (mantissa exponent : Int) (zeroSign : Sign) :
    IsRounding (mantissa * 2 ^ exponent)
      (UnpackedFloat.normalize Format.binary64 mantissa exponent zeroSign) := by
  unfold UnpackedFloat.normalize
  rcases lt_trichotomy mantissa 0 with hlt | rfl | hlt
  · have hround := isRounding_round (-mantissa).toNat (by omega) exponent .negative
    have hcast : (((-mantissa).toNat : ℕ) : ℝ) = -mantissa := by
      exact_mod_cast Int.toNat_of_nonneg (show 0 ≤ -mantissa by omega)
    rw [Int.compare_eq_lt.2 hlt]
    rwa [hcast, neg_mul, show ∀ y, signed .negative (-y) = y from neg_neg] at hround
  · rw [Int.cast_zero, zero_mul]
    exact ⟨trivial, rfl, .refl onGrid_zero⟩
  · have hround := isRounding_round mantissa.toNat (by omega) exponent .positive
    have hcast : ((mantissa.toNat : ℕ) : ℝ) = mantissa := by
      exact_mod_cast Int.toNat_of_nonneg hlt.le
    rw [Int.compare_eq_gt.2 hlt]
    rwa [hcast] at hround

end NeighborGraph.Double
