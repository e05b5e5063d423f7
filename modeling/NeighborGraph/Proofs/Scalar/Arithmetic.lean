import NeighborGraph.Proofs.Scalar.Rounding

/-!
# The arithmetic of doubles, rounded

Each operation on finite doubles answers with the exact result rounded to the nearest
(`Double.rounded_add`, `rounded_mul`, `rounded_div`, `rounded_sqrt`): a finite double, or an
infinity where the nearest point of the grid is too great for one (`Double.Rounded`). Finite
doubles are ordered by their values (`Double.lt_iff`, `Double.le_iff`).
-/

namespace NeighborGraph.Double

open Float.Model Float.Model.UnpackedFloat

/-! ## Values of canonical numbers -/

/-- The sign does not change the absolute value. -/
theorem abs_signed (sign : Sign) (x : ℝ) : |signed sign x| = |x| := by
  cases sign with
  | negative => exact abs_neg x
  | positive => rfl

/-- The same sign twice is none. -/
theorem signed_signed (sign : Sign) (x : ℝ) : signed sign (signed sign x) = x := by
  cases sign with
  | negative => exact neg_neg x
  | positive => rfl

/-- A canonical number is on the grid. -/
theorem onGrid_unpackedValue {u : UnpackedFloat} (h : Canonical u) : OnGrid (unpackedValue u) := by
  cases u with
  | infinity sign => exact onGrid_zero
  | notANumber => exact onGrid_zero
  | zero sign => exact onGrid_zero
  | finite sign mantissa exponent hpos =>
    have hm : OnGrid (mantissa * 2 ^ exponent) :=
      ⟨mantissa, exponent, by rw [Nat.abs_cast]; exact_mod_cast h.1, h.2.1, by push_cast; rfl⟩
    rw [unpackedValue_finite]
    cases sign with
    | negative => exact hm.neg
    | positive => exact hm

/-- A canonical number is what its value is rounded to. -/
theorem isRounding_self {u : UnpackedFloat} (h : Canonical u) (hf : u.isFinite = true) :
    IsRounding (unpackedValue u) u :=
  ⟨h, hf, .refl (onGrid_unpackedValue h)⟩

/-- The value of a double is on the grid. -/
theorem onGrid_value (a : Float) : OnGrid (value a) :=
  onGrid_unpackedValue (canonical_unpack _).1

/-- No double is farther from zero than the greatest one. -/
theorem abs_value_le (a : Float) : |value a| ≤ greatestValue := by
  obtain ⟨hcanonical, hexponent⟩ := canonical_unpack a.toModel.toBits.toBitVec
  have hnonneg : 0 ≤ greatestValue := mul_nonneg (by norm_num) (by positivity)
  unfold value Float.Model.unpack
  cases hu : UnpackedFloat.unpack Format.binary64 a.toModel.toBits.toBitVec with
  | infinity sign => simpa [unpackedValue] using hnonneg
  | notANumber => simpa [unpackedValue] using hnonneg
  | zero sign => simpa [unpackedValue] using hnonneg
  | finite sign mantissa exponent hpos =>
    rw [hu] at hcanonical
    have he : exponent ≤ 971 := hexponent _ _ _ _ hu
    have hm : (mantissa : ℝ) ≤ 2 ^ 53 - 1 := by
      rw [le_sub_iff_add_le]
      exact_mod_cast hcanonical.1
    rw [unpackedValue_finite, abs_signed, abs_of_nonneg (by positivity)]
    exact mul_le_mul hm (zpow_le_zpow_right₀ one_le_two he) (by positivity) (by norm_num)

/-- The greatest value is on the grid. -/
theorem onGrid_greatestValue : OnGrid greatestValue :=
  ⟨2 ^ 53 - 1, 971, by decide, by decide, by rw [greatestValue]; norm_num⟩

/-- The greatest value is below the next power of two. -/
theorem greatestValue_lt : greatestValue < 2 ^ (1024 : ℤ) := by
  rw [show (1024 : ℤ) = 53 + 971 from rfl, zpow_add₀ two_ne_zero]
  exact mul_lt_mul_of_pos_right (by norm_num) (by positivity)

/-- A finite double is no infinity. -/
theorem ne_infinity {a : Float} (hf : a.isFinite = true) (sign : Sign) :
    a.toModel.unpack ≠ .infinity sign := by
  intro h
  rw [Float.isFinite, Float.Model.isFinite, h] at hf
  cases hf

/-! ## Rounded doubles -/

/-- The double is what a real is rounded to: the nearest point of the grid, or an infinity of its
sign where that point is too great for a double. -/
inductive Rounded (x : ℝ) (a : Float) : Prop
  | finite (isFinite : a.isFinite = true) (nearest : Nearest x (value a))
  | infinite {y : ℝ} (sign : Sign) (unpack_eq : a.toModel.unpack = .infinity sign)
    (nearest : Nearest x (signed sign y)) (le : 2 ^ (1024 : ℤ) ≤ y)

/-- Packing and unpacking gives a rounded number back, or an infinity where its exponent is too
great for a double. -/
theorem IsRounding.unpack_pack {x : ℝ} {u : UnpackedFloat} (h : IsRounding x u) :
    (Float.ofModel (pack u)).toModel.unpack = u ∨
      ∃ sign mantissa exponent hpos, u = .finite sign mantissa exponent hpos ∧ 971 < exponent ∧
        (Float.ofModel (pack u)).toModel.unpack = .infinity sign := by
  have hunpack : (Float.ofModel (pack u)).toModel.unpack =
      UnpackedFloat.unpack Format.binary64 (UnpackedFloat.pack Format.binary64 u) := rfl
  obtain ⟨hcanonical, hfinite, -⟩ := h
  cases u with
  | infinity sign => cases hfinite
  | notANumber => cases hfinite
  | zero sign => exact .inl (hunpack.trans unpack_packedZero)
  | finite sign mantissa exponent hpos =>
    rcases le_or_gt exponent 971 with hle | hlt
    · exact .inl (hunpack.trans (unpack_pack_of_le hcanonical hle))
    · exact .inr ⟨sign, mantissa, exponent, hpos, rfl, hlt, hunpack.trans (unpack_pack_of_lt hlt)⟩

/-- Packing a rounded number gives a rounded double. -/
theorem IsRounding.rounded_pack {x : ℝ} {u : UnpackedFloat} (h : IsRounding x u) :
    Rounded x (.ofModel (pack u)) := by
  rcases h.unpack_pack with heq | ⟨sign, mantissa, exponent, hpos, rfl, hlt, heq⟩
  · refine .finite ((congrArg UnpackedFloat.isFinite heq).trans h.isFinite) ?_
    rw [value, heq]
    exact h.nearest
  · have hnearest := h.nearest
    rw [unpackedValue_finite] at hnearest
    refine .infinite sign heq hnearest ?_
    have hm : (2 : ℝ) ^ (52 : ℤ) ≤ mantissa := by
      exact_mod_cast h.canonical.2.2.resolve_right (by omega)
    calc (2 : ℝ) ^ (1024 : ℤ) = 2 ^ (52 : ℤ) * 2 ^ (972 : ℤ) := by
          rw [← zpow_add₀ two_ne_zero]
          rfl
      _ ≤ mantissa * 2 ^ exponent := by
          have := zpow_le_zpow_right₀ (one_le_two (α := ℝ)) (Int.add_one_le_of_lt hlt)
          exact mul_le_mul hm this (by positivity) (by positivity)

namespace Rounded

variable {x g : ℝ} {a : Float}

/-- What lies between a point of the grid and its negation is rounded to a finite double there, if
the point is not too great. -/
theorem of_abs_le (h : Rounded x a) (hg : OnGrid g) (hlt : g < 2 ^ (1024 : ℤ)) (hx : |x| ≤ g) :
    a.isFinite = true ∧ |value a| ≤ g := by
  cases h with
  | finite hf hn => exact ⟨hf, hn.abs_le_of_abs_le hg hx⟩
  | @infinite y sign _ hn hle =>
    have := hn.abs_le_of_abs_le hg hx
    rw [abs_signed] at this
    linarith [le_abs_self y]

/-- What is on the grid and not too great is exact. -/
theorem value_eq (h : Rounded x a) (hx : OnGrid x) (hlt : |x| < 2 ^ (1024 : ℤ)) :
    a.isFinite = true ∧ value a = x := by
  cases h with
  | finite hf hn => exact ⟨hf, le_antisymm (hn.le_of_le hx le_rfl) (hn.ge_of_ge hx le_rfl)⟩
  | @infinite y sign _ hn hle =>
    have hy : signed sign y = x := le_antisymm (hn.le_of_le hx le_rfl) (hn.ge_of_ge hx le_rfl)
    rw [← hy, abs_signed] at hlt
    linarith [le_abs_self y]

/-- What a real is rounded to is the nearest point of the grid if it is finite. -/
theorem nearest_value (h : Rounded x a) (hf : a.isFinite = true) : Nearest x (value a) := by
  cases h with
  | finite _ hn => exact hn
  | infinite sign unpack_eq => exact absurd unpack_eq (ne_infinity hf sign)

/-- What exceeds the greatest value by less than half a step is rounded to a finite double. -/
theorem isFinite_of_abs_le (h : Rounded x a) (hx : |x| ≤ greatestValue + 2 ^ (969 : ℤ)) :
    a.isFinite = true := by
  cases h with
  | finite hf => exact hf
  | @infinite y sign _ hn hle =>
    have hn' := hn.signed sign
    rw [signed_signed] at hn'
    obtain ⟨half, hhalf⟩ : ∃ half : ℝ, half = 2 ^ (969 : ℤ) := ⟨_, rfl⟩
    have hpos : 0 < half := hhalf ▸ by positivity
    have hstep : (2 : ℝ) ^ (1024 : ℤ) = greatestValue + 4 * half := by
      rw [greatestValue, hhalf, show (971 : ℤ) = 2 + 969 from rfl,
        show (1024 : ℤ) = 55 + 969 from rfl, zpow_add₀ two_ne_zero, zpow_add₀ two_ne_zero]
      ring
    rw [hstep] at hle
    rw [← hhalf] at hx
    clear hstep hhalf
    have hupper : signed sign x ≤ greatestValue + half :=
      (le_abs_self _).trans ((abs_signed sign x).trans_le hx)
    have hlower : greatestValue < signed sign x := by
      by_contra hge
      have := hn'.le_of_le onGrid_greatestValue (not_lt.1 hge)
      linarith
    have hnear := hn'.abs_sub_le _ onGrid_greatestValue
    rw [abs_of_pos (by linarith), abs_of_neg (by linarith)] at hnear
    exact absurd hnear (by linarith)

/-- What is not below zero is rounded to a double that is not below zero. -/
theorem of_nonneg (h : Rounded x a) (hx : 0 ≤ x) :
    (a.isFinite = true ∧ 0 ≤ value a) ∨ a.toModel.unpack = .infinity .positive := by
  cases h with
  | finite hf hn => exact .inl ⟨hf, hn.ge_of_ge onGrid_zero hx⟩
  | @infinite y sign unpack_eq hn hle =>
    have hy : (0 : ℝ) < y := lt_of_lt_of_le (by positivity) hle
    have := hn.ge_of_ge onGrid_zero hx
    cases sign with
    | negative => exact absurd this (not_le.2 (neg_neg_of_pos hy))
    | positive => exact .inr unpack_eq

end Rounded

/-! ## Operations on canonical numbers -/

/-- Moving digits to a lower exponent leaves the number. -/
theorem shifted_mul_zpow {t exponent : ℤ} (h : t ≤ exponent) (mantissa : ℕ) :
    ((mantissa <<< (exponent - t).toNat : ℕ) : ℝ) * 2 ^ t = mantissa * 2 ^ exponent := by
  obtain ⟨k, hk⟩ := Int.eq_ofNat_of_zero_le (sub_nonneg.2 h)
  rw [hk, Int.toNat_natCast, Nat.shiftLeft_eq, show exponent = k + t by omega,
    zpow_add₀ two_ne_zero, zpow_natCast]
  push_cast
  ring

/-- A sign is applied to a natural number as it is to the real one. -/
theorem cast_apply (sign : Sign) (n : ℕ) : ((sign.apply n : ℤ) : ℝ) = signed sign n := by
  cases sign <;> simp [Sign.apply, signed]

/-- A sign can be taken before or after multiplying. -/
theorem signed_mul_right (sign : Sign) (x y : ℝ) : signed sign x * y = signed sign (x * y) := by
  cases sign with
  | negative => exact neg_mul x y
  | positive => rfl

/-- The sign of a product is the product of the signs. -/
theorem signed_mul_signed (s t : Sign) (x y : ℝ) :
    signed s x * signed t y = signed (s * t) (x * y) := by
  cases s with
  | negative =>
    cases t with
    | negative => exact neg_mul_neg x y
    | positive => exact neg_mul x y
  | positive =>
    cases t with
    | negative => exact mul_neg x y
    | positive => rfl

/-- The sign of a quotient is the quotient of the signs. -/
theorem signed_div_signed (s t : Sign) (x y : ℝ) :
    signed s x / signed t y = signed (s / t) (x / y) := by
  cases s with
  | negative =>
    cases t with
    | negative => exact neg_div_neg_eq x y
    | positive => exact neg_div y x
  | positive =>
    cases t with
    | negative => exact div_neg x
    | positive => rfl

/-- Zero is rounded to a zero, of either sign. -/
theorem isRounding_zero (sign : Sign) : IsRounding 0 (.zero sign) :=
  ⟨trivial, rfl, .refl onGrid_zero⟩

/-- Finite numbers are added by rounding the sum. -/
theorem isRounding_add {u v : UnpackedFloat} (hu : Canonical u) (hv : Canonical v)
    (hfu : u.isFinite = true) (hfv : v.isFinite = true) :
    IsRounding (unpackedValue u + unpackedValue v) (UnpackedFloat.add Format.binary64 u v) := by
  cases u with
  | infinity sign => cases hfu
  | notANumber => cases hfu
  | zero sign =>
    rw [show unpackedValue (.zero sign) = 0 from rfl, zero_add]
    cases v with
    | infinity sign' => cases hfv
    | notANumber => cases hfv
    | zero sign' => cases sign <;> cases sign' <;> exact isRounding_zero _
    | finite sign' mantissa exponent h => exact isRounding_self hv hfv
  | finite sign mantissa exponent h =>
    cases v with
    | infinity sign' => cases hfv
    | notANumber => cases hfv
    | zero sign' =>
      rw [show unpackedValue (.zero sign') = 0 from rfl, add_zero]
      exact isRounding_self hu hfu
    | finite sign' mantissa' exponent' h' =>
      have hround := isRounding_normalize
        (sign.apply (mantissa <<< (exponent - min exponent exponent').toNat : ℕ) +
          sign'.apply (mantissa' <<< (exponent' - min exponent exponent').toNat : ℕ))
        (min exponent exponent') .positive
      rw [Int.cast_add, add_mul, cast_apply, cast_apply, signed_mul_right, signed_mul_right,
        shifted_mul_zpow (min_le_left ..), shifted_mul_zpow (min_le_right ..),
        ← unpackedValue_finite _ _ _ h, ← unpackedValue_finite _ _ _ h'] at hround
      exact hround

/-- Finite numbers are multiplied by rounding the product. -/
theorem isRounding_mul {u v : UnpackedFloat} (hu : Canonical u) (hv : Canonical v)
    (hfu : u.isFinite = true) (hfv : v.isFinite = true) :
    IsRounding (unpackedValue u * unpackedValue v) (UnpackedFloat.mul Format.binary64 u v) := by
  cases u with
  | infinity sign => cases hfu
  | notANumber => cases hfu
  | zero sign =>
    rw [show unpackedValue (.zero sign) = 0 from rfl, zero_mul]
    cases v with
    | infinity sign' => cases hfv
    | notANumber => cases hfv
    | zero sign' => exact isRounding_zero _
    | finite sign' mantissa exponent h => exact isRounding_zero _
  | finite sign mantissa exponent h =>
    cases v with
    | infinity sign' => cases hfv
    | notANumber => cases hfv
    | zero sign' =>
      rw [show unpackedValue (.zero sign') = 0 from rfl, mul_zero]
      exact isRounding_zero _
    | finite sign' mantissa' exponent' h' =>
      -- Either a factor has 53 bits, or both have the least exponent.
      have hbits : 52 ≤ (mantissa * mantissa').log2 ∨ exponent + exponent' ≤ -1074 := by
        rcases hu.2.2 with hlarge | hmin
        · exact .inl ((Nat.le_log2 (Nat.mul_ne_zero h.ne' h'.ne')).2
            (hlarge.trans (Nat.le_mul_of_pos_right _ h')))
        · rcases hv.2.2 with hlarge | hmin'
          · exact .inl ((Nat.le_log2 (Nat.mul_ne_zero h.ne' h'.ne')).2
              (hlarge.trans (Nat.le_mul_of_pos_left _ h)))
          · omega
      have hround := isRounding_roundWithAccuracy_exact (mantissa * mantissa')
        (exponent + exponent') (by omega) (sign * sign')
      rw [unpackedValue_finite, unpackedValue_finite, signed_mul_signed,
        mul_mul_mul_comm, ← zpow_add₀ two_ne_zero, ← Nat.cast_mul]
      exact hround

/-- A quotient is cut off at its integral part, with the remainder as the residual bits. -/
theorem truncates_div (n : ℕ) {d : ℕ} (hd : 0 < d) :
    Truncates (.ofMantissaAndAccuracy (n / d) (accuracyOfFraction (n % d) d)) (n / d) := by
  have hd' : (0 : ℝ) < d := by exact_mod_cast hd
  have hlt : ((n % d : ℕ) : ℝ) < d := by exact_mod_cast Nat.mod_lt n hd
  have hn : (n : ℝ) = d * (n / d : ℕ) + (n % d : ℕ) := by exact_mod_cast (Nat.div_add_mod n d).symm
  have hsplit : (n : ℝ) / d = (n / d : ℕ) + (n % d : ℕ) / d := by
    rw [eq_comm, ← mul_right_inj' hd'.ne', mul_add, mul_div_cancel₀ _ hd'.ne',
      mul_div_cancel₀ _ hd'.ne']
    exact hn.symm
  have hone : ((n % d : ℕ) : ℝ) / d < 1 := (div_lt_one hd').2 hlt
  rw [hsplit]
  unfold accuracyOfFraction
  split
  · next hzero =>
    rw [hzero, Nat.cast_zero, zero_div, add_zero]
    exact .exact _
  · next hpos =>
    have hpos' : 0 < ((n % d : ℕ) : ℝ) / d :=
      div_pos (by exact_mod_cast Nat.pos_of_ne_zero hpos) hd'
    rcases lt_trichotomy (2 * (n % d)) d with h | h | h
    · have hhalf : ((n % d : ℕ) : ℝ) / d < 1 / 2 := by
        rw [div_lt_div_iff₀ hd' two_pos, one_mul, mul_comm]
        exact_mod_cast h
      rw [Nat.compare_eq_lt.2 h]
      exact .below (by linarith) (by linarith)
    · have hhalf : ((n % d : ℕ) : ℝ) / d = 1 / 2 := by
        rw [div_eq_div_iff hd'.ne' two_ne_zero, one_mul, mul_comm]
        exact_mod_cast h
      rw [Nat.compare_eq_eq.2 h, hhalf]
      exact .half rfl
    · have hhalf : 1 / 2 < ((n % d : ℕ) : ℝ) / d := by
        rw [div_lt_div_iff₀ two_pos hd', one_mul, mul_comm]
        exact_mod_cast h
      rw [Nat.compare_eq_gt.2 h]
      exact .above (by linarith) (by linarith)

/-- The quotient has 53 bits, or its exponent is the least one. -/
theorem log2_divCore {m m' k : ℕ} (h' : 0 < m') (hk : m'.log2 + 53 ≤ m.log2 + k) (h : 0 < m) :
    52 ≤ ((m <<< k) / m').log2 := by
  have hq : 2 ^ 52 ≤ (m <<< k) / m' := by
    rw [Nat.le_div_iff_mul_le h', Nat.shiftLeft_eq]
    calc 2 ^ 52 * m' ≤ 2 ^ 52 * 2 ^ (m'.log2 + 1) := Nat.mul_le_mul_left _ Nat.lt_log2_self.le
      _ = 2 ^ (m'.log2 + 53) := by rw [← Nat.pow_add, Nat.add_comm 52, Nat.add_assoc]
      _ ≤ 2 ^ (m.log2 + k) := Nat.pow_le_pow_right Nat.two_pos hk
      _ = 2 ^ m.log2 * 2 ^ k := Nat.pow_add ..
      _ ≤ m * 2 ^ k := Nat.mul_le_mul_right _ (Nat.log2_self_le h.ne')
  exact (Nat.le_log2 (by omega)).2 hq

/-- A finite number is divided by one that is not zero by rounding the quotient. -/
theorem isRounding_div {u v : UnpackedFloat} (hfu : u.isFinite = true) (hfv : v.isFinite = true)
    (hne : unpackedValue v ≠ 0) :
    IsRounding (unpackedValue u / unpackedValue v) (UnpackedFloat.div Format.binary64 u v) := by
  cases v with
  | infinity sign' => cases hfv
  | notANumber => cases hfv
  | zero sign' => exact absurd rfl hne
  | finite sign' m' e' h' =>
    cases u with
    | infinity sign => cases hfu
    | notANumber => cases hfu
    | zero sign =>
      rw [show unpackedValue (.zero sign) = 0 from rfl, zero_div]
      exact isRounding_zero _
    | finite sign m e h =>
      obtain ⟨t, ht⟩ : ∃ t : ℤ, t = min (e - e') (max (m.log2 - m'.log2 + (e - e') - 53) (-1074)) :=
        ⟨_, rfl⟩
      obtain ⟨k, hk⟩ := Int.eq_ofNat_of_zero_le (show 0 ≤ e - e' - t by omega)
      have hcore : divCore Format.binary64 m e m' e' = ((m <<< k) / m', t,
          accuracyOfFraction ((m <<< k) % m') m') := by
        have htarget : Format.binary64.targetExponent (totalExponent m e - totalExponent m' e') =
            max (m.log2 - m'.log2 + (e - e') - 53) (-1074) := by
          change max ((m.log2 : ℤ) + 1 + e - (m'.log2 + 1 + e') - 53) (-1074) = _
          congr 1
          omega
        rw [divCore, htarget, ← ht, hk, Int.toNat_natCast]
      have hbits : t ≤ max (((m <<< k) / m').log2 + t - 52) (-1074) := by
        rcases le_or_gt t (-1074) with hle | hlt
        · omega
        · have := log2_divCore h' (show m'.log2 + 53 ≤ m.log2 + k by omega) h
          omega
      have hquotient : ((m <<< k : ℕ) : ℝ) / m' = m * 2 ^ e / (m' * 2 ^ e') / 2 ^ t := by
        have hshift := shifted_mul_zpow (show t ≤ e - e' by omega) m
        rw [hk, Int.toNat_natCast, zpow_sub₀ two_ne_zero, ← eq_div_iff (by positivity)] at hshift
        rw [hshift]
        field_simp
      have hround := isRounding_roundWithAccuracy hbits
        (hquotient ▸ truncates_div (m <<< k) h') (sign / sign')
      rw [unpackedValue_finite, unpackedValue_finite, signed_div_signed]
      simpa only [UnpackedFloat.div, hcore] using hround

/-- A square root is cut off at its integral part. -/
theorem truncates_sqrt (n : ℕ) :
    Truncates (.ofMantissaAndAccuracy n.sqrt (if n - n.sqrt * n.sqrt = 0 then .exact
      else .inexact (if n - n.sqrt * n.sqrt ≤ n.sqrt then .lt else .gt))) (√n) := by
  have hle := Nat.sqrt_le n
  have hlt := Nat.lt_succ_sqrt n
  have hroot : (0 : ℝ) ≤ n.sqrt := Nat.cast_nonneg _
  split
  · next hzero =>
    have hn : √(n : ℝ) = n.sqrt := by
      rw [Real.sqrt_eq_iff_mul_self_eq (Nat.cast_nonneg _) hroot]
      exact_mod_cast (show n = n.sqrt * n.sqrt by omega)
    rw [hn]
    exact .exact _
  · next hpos =>
    have hbelow : (n.sqrt : ℝ) < √n := by
      refine Real.lt_sqrt_of_sq_lt ?_
      rw [sq]
      exact_mod_cast (show n.sqrt * n.sqrt < n by omega)
    split
    · next hsmall =>
      have hn : (n : ℝ) ≤ n.sqrt * n.sqrt + n.sqrt := by
        exact_mod_cast (show n ≤ n.sqrt * n.sqrt + n.sqrt by omega)
      refine .below hbelow ?_
      rw [Real.sqrt_lt' (by positivity)]
      linarith
    · next hlarge =>
      have hn : (n.sqrt * n.sqrt + n.sqrt + 1 : ℝ) ≤ n := by
        exact_mod_cast (show n.sqrt * n.sqrt + n.sqrt + 1 ≤ n by omega)
      have hn' : (n : ℝ) < (n.sqrt + 1) * (n.sqrt + 1) := by exact_mod_cast hlt
      refine .above (Real.lt_sqrt_of_sq_lt ?_) ?_
      · linarith
      · rw [Real.sqrt_lt' (by positivity)]
        linarith

/-- The square root has 53 bits if the number has 105. -/
theorem log2_sqrt {n : ℕ} (h : 2 ^ 104 ≤ n) : 52 ≤ n.sqrt.log2 := by
  have hroot : 2 ^ 52 ≤ n.sqrt := Nat.le_sqrt.2 h
  exact (Nat.le_log2 (by omega)).2 hroot

/-- The root of a number that is not negative is taken by rounding the root. -/
theorem isRounding_sqrt {u : UnpackedFloat} (hf : u.isFinite = true) (h : 0 ≤ unpackedValue u) :
    IsRounding (√(unpackedValue u)) (UnpackedFloat.sqrt Format.binary64 u) := by
  cases u with
  | infinity sign => cases hf
  | notANumber => cases hf
  | zero sign =>
    rw [show unpackedValue (.zero sign) = 0 from rfl, Real.sqrt_zero]
    exact isRounding_zero _
  | finite sign m e hpos =>
    have hm : (0 : ℝ) < m * 2 ^ e := mul_pos (by exact_mod_cast hpos) (by positivity)
    rw [unpackedValue_finite] at h ⊢
    cases sign with
    | negative => exact absurd h (not_le.2 (neg_neg_of_pos hm))
    | positive =>
      obtain ⟨t, ht⟩ : ∃ t : ℤ, t = min (e / 2) (max ((m.log2 + 1 + e + 1) / 2 - 53) (-1074)) :=
        ⟨_, rfl⟩
      obtain ⟨k, hk⟩ := Int.eq_ofNat_of_zero_le (show 0 ≤ e - 2 * t by omega)
      have hcore : sqrtCore Format.binary64 m e = ((m <<< k).sqrt, t,
          if m <<< k - (m <<< k).sqrt * (m <<< k).sqrt = 0 then .exact
          else .inexact (if m <<< k - (m <<< k).sqrt * (m <<< k).sqrt ≤ (m <<< k).sqrt then .lt
            else .gt)) := by
        have htarget : min (e.ediv 2)
            (Format.binary64.targetExponent ((totalExponent m e + 1).ediv 2)) = t := ht.symm
        rw [sqrtCore, htarget, hk, Int.toNat_natCast]
      have hbits : t ≤ max ((m <<< k).sqrt.log2 + t - 52) (-1074) := by
        rcases le_or_gt t (-1074) with hle | hlt
        · omega
        · have hlarge : 2 ^ 104 ≤ m <<< k := by
            rw [Nat.shiftLeft_eq]
            calc 2 ^ 104 ≤ 2 ^ (m.log2 + k) := Nat.pow_le_pow_right Nat.two_pos (by omega)
              _ = 2 ^ m.log2 * 2 ^ k := Nat.pow_add ..
              _ ≤ m * 2 ^ k := Nat.mul_le_mul_right _ (Nat.log2_self_le hpos.ne')
          have := log2_sqrt hlarge
          omega
      have hroot : √((m <<< k : ℕ) : ℝ) = √(m * 2 ^ e) / 2 ^ t := by
        have hshift := shifted_mul_zpow (show 2 * t ≤ e by omega) m
        rw [hk, Int.toNat_natCast, two_mul, zpow_add₀ two_ne_zero] at hshift
        rw [← hshift, Real.sqrt_mul (Nat.cast_nonneg _), Real.sqrt_mul_self (by positivity),
          mul_div_cancel_right₀ _ (by positivity)]
      have hround := isRounding_roundWithAccuracy hbits (hroot ▸ truncates_sqrt (m <<< k)) .positive
      change IsRounding (signed .positive √(m * 2 ^ e)) _
      simpa only [UnpackedFloat.sqrt, hcore] using hround

/-! ## Operations on doubles -/

section Operations

variable {a b : Float}

/-- Finite doubles are added by rounding the sum. -/
theorem rounded_add (ha : a.isFinite = true) (hb : b.isFinite = true) :
    Rounded (value a + value b) (a + b) :=
  (isRounding_add (canonical_unpack _).1 (canonical_unpack _).1 ha hb).rounded_pack

/-- Finite doubles are multiplied by rounding the product. -/
theorem rounded_mul (ha : a.isFinite = true) (hb : b.isFinite = true) :
    Rounded (value a * value b) (a * b) :=
  (isRounding_mul (canonical_unpack _).1 (canonical_unpack _).1 ha hb).rounded_pack

/-- A finite double is divided by one that is not zero by rounding the quotient. -/
theorem rounded_div (ha : a.isFinite = true) (hb : b.isFinite = true) (hne : value b ≠ 0) :
    Rounded (value a / value b) (a / b) :=
  (isRounding_div ha hb hne).rounded_pack

/-- The root of a double that is not negative is taken by rounding the root. -/
theorem rounded_sqrt (ha : a.isFinite = true) (h : 0 ≤ value a) :
    Rounded √(value a) a.sqrt :=
  (isRounding_sqrt ha h).rounded_pack

/-- Natural numbers of at most 53 bits are exact. -/
theorem value_ofNat {n : Nat} (h : n < 2 ^ 53) :
    (Float.ofNat n).isFinite = true ∧ value (Float.ofNat n) = n := by
  have hgrid : OnGrid n := ⟨n, 0, by rw [Nat.abs_cast]; exact_mod_cast h, by decide, by simp⟩
  have hbound : |(n : ℝ)| < 2 ^ (1024 : ℤ) := by
    have hn : (n : ℝ) < 2 ^ (53 : ℤ) := by exact_mod_cast h
    rw [abs_of_nonneg (Nat.cast_nonneg _)]
    exact hn.trans_le (zpow_le_zpow_right₀ one_le_two (by decide))
  have hint : IsRounding n (UnpackedFloat.ofUInt64 Format.binary64 n.toUInt64) := by
    have hround := isRounding_normalize n 0 .positive
    rw [zpow_zero, mul_one, Int.cast_natCast] at hround
    have hnat : n.toUInt64.toNat = n := Nat.mod_eq_of_lt (by omega)
    rwa [UnpackedFloat.ofUInt64, UnpackedFloat.ofNat, UnpackedFloat.ofInt, hnat]
  obtain ⟨hfinite, hvalue⟩ := (hint.rounded_pack).value_eq hgrid hbound
  -- A decimal literal without a fraction is multiplied by one.
  have hone : (Float.ofBits 0x3FF0000000000000).isFinite = true ∧
      value (Float.ofBits 0x3FF0000000000000) = 1 := by
    refine ⟨rfl, ?_⟩
    rw [value, show (Float.ofBits 0x3FF0000000000000).toModel.unpack =
      .finite .positive (2 ^ 52) (-52) (by decide) from rfl, unpackedValue_finite]
    norm_num [signed]
  have hproduct := rounded_mul hfinite hone.1
  rw [hvalue, hone.2, mul_one] at hproduct
  have heq : Float.ofNat n = n.toUInt64.toFloat * Float.ofBits 0x3FF0000000000000 :=
    dif_pos ⟨h, by decide⟩
  rw [heq]
  exact hproduct.value_eq hgrid hbound

/-- The absolute value of a double is exact. -/
theorem value_abs (ha : a.isFinite = true) : a.abs.isFinite = true ∧ value a.abs = |value a| := by
  have hround : IsRounding |value a| a.toModel.unpack.abs := by
    have hcanonical : Canonical a.toModel.unpack := (canonical_unpack _).1
    change a.toModel.unpack.isFinite = true at ha
    unfold value
    generalize a.toModel.unpack = u at hcanonical ha ⊢
    cases u with
    | infinity sign => cases ha
    | notANumber => cases ha
    | zero sign =>
      rw [show unpackedValue (.zero sign) = 0 from rfl, abs_zero]
      exact isRounding_zero _
    | finite sign m e h =>
      have hself := isRounding_self (u := .finite .positive m e h) hcanonical rfl
      rw [unpackedValue_finite] at hself ⊢
      rw [abs_signed, abs_of_nonneg (by positivity)]
      exact hself
  have hlt := (abs_value_le a).trans_lt greatestValue_lt
  refine hround.rounded_pack.value_eq ?_ (by rwa [abs_abs])
  rcases abs_choice (value a) with h | h <;> rw [h]
  exacts [onGrid_value a, (onGrid_value a).neg]

end Operations

/-! ## Order -/

/-- What is less compares as less. -/
theorem some_lt_eq_cmp {β : Type} [LinearOrder β] {x y : β} (h : x < y) :
    some Ordering.lt = some (cmp x y) :=
  congrArg some ((cmp_eq_lt_iff ..).2 h).symm

/-- What is greater compares as greater. -/
theorem some_gt_eq_cmp {β : Type} [LinearOrder β] {x y : β} (h : y < x) :
    some Ordering.gt = some (cmp x y) :=
  congrArg some ((cmp_eq_gt_iff ..).2 h).symm

/-- Mantissas of one sign are ordered by their exponents first. -/
theorem compare_then_compare {m m' : ℕ} {e e' : ℤ} (h : m < 2 ^ 53) (h' : m' < 2 ^ 53)
    (hlow : 2 ^ 52 ≤ m ∨ e = -1074) (hlow' : 2 ^ 52 ≤ m' ∨ e' = -1074) (he : -1074 ≤ e)
    (he' : -1074 ≤ e') :
    (compare e e').then (compare m m') = cmp ((m : ℝ) * 2 ^ e) (m' * 2 ^ e') := by
  have hbelow : ∀ {m m' : ℕ} {e e' : ℤ}, m < 2 ^ 53 → (2 ^ 52 ≤ m' ∨ e' = -1074) → -1074 ≤ e →
      e < e' → (m : ℝ) * 2 ^ e < m' * 2 ^ e' := by
    intro m m' e e' hm hm' he hlt
    have hm : (m : ℝ) < 2 ^ (53 : ℤ) := by exact_mod_cast hm
    have hm' : (2 : ℝ) ^ (52 : ℤ) ≤ m' := by exact_mod_cast hm'.resolve_right (by omega)
    calc (m : ℝ) * 2 ^ e < 2 ^ (53 : ℤ) * 2 ^ e := by gcongr
      _ = 2 ^ (53 + e) := (zpow_add₀ two_ne_zero ..).symm
      _ ≤ 2 ^ (52 + e') := zpow_le_zpow_right₀ one_le_two (by omega)
      _ = 2 ^ (52 : ℤ) * 2 ^ e' := zpow_add₀ two_ne_zero ..
      _ ≤ m' * 2 ^ e' := by gcongr
  rcases lt_trichotomy e e' with hlt | rfl | hlt
  · rw [Int.compare_eq_lt.2 hlt, eq_comm]
    exact (cmp_eq_lt_iff ..).2 (hbelow h hlow' he hlt)
  · have hpos : (0 : ℝ) < 2 ^ e := by positivity
    rw [Int.compare_eq_eq.2 rfl, cmp_mul_pos_right hpos, Nat.strictMono_cast.cmp_map_eq,
      cmp_eq_compare]
    rfl
  · rw [Int.compare_eq_gt.2 hlt, eq_comm]
    exact (cmp_eq_gt_iff ..).2 (hbelow h' hlow he' hlt)

/-- Canonical numbers are compared by their values. -/
theorem compare_eq_cmp {u v : UnpackedFloat} (hu : Canonical u) (hv : Canonical v)
    (hfu : u.isFinite = true) (hfv : v.isFinite = true) :
    UnpackedFloat.compare u v = some (cmp (unpackedValue u) (unpackedValue v)) := by
  have hpos : ∀ {m : ℕ} {e : ℤ}, 0 < m → (0 : ℝ) < m * 2 ^ e := fun h =>
    mul_pos (by exact_mod_cast h) (by positivity)
  cases u with
  | infinity sign => cases hfu
  | notANumber => cases hfu
  | zero sign =>
    rw [show unpackedValue (.zero sign) = 0 from rfl]
    cases v with
    | infinity sign' => cases hfv
    | notANumber => cases hfv
    | zero sign' =>
      rw [show unpackedValue (.zero sign') = 0 from rfl, cmp_self_eq_eq]
      rfl
    | finite sign' m e h =>
      rw [unpackedValue_finite]
      cases sign' with
      | negative => exact some_gt_eq_cmp (neg_neg_of_pos (hpos h))
      | positive => exact some_lt_eq_cmp (hpos h)
  | finite sign m e h =>
    rw [unpackedValue_finite]
    cases v with
    | infinity sign' => cases hfv
    | notANumber => cases hfv
    | zero sign' =>
      cases sign with
      | negative => exact some_lt_eq_cmp (neg_neg_of_pos (hpos h))
      | positive => exact some_gt_eq_cmp (hpos h)
    | finite sign' m' e' h' =>
      have hcompare := compare_then_compare hu.1 hv.1 hu.2.2 hv.2.2 hu.2.1 hv.2.1
      rw [unpackedValue_finite]
      cases sign with
      | negative =>
        cases sign' with
        | negative =>
          change some ((compare e e').then (compare m m')).swap = some (cmp (-_) (-_))
          have hanti : StrictAnti fun x : ℝ => -x := fun _ _ => neg_lt_neg
          rw [hcompare, cmp_swap]
          exact congrArg some (hanti.cmp_map_eq _ _).symm
        | positive => exact some_lt_eq_cmp ((neg_neg_of_pos (hpos h)).trans (hpos h'))
      | positive =>
        cases sign' with
        | negative => exact some_gt_eq_cmp ((neg_neg_of_pos (hpos h')).trans (hpos h))
        | positive => exact congrArg some hcompare

section Order

variable {a b : Float}

/-- A double is below another one if it compares as less. -/
theorem lt_iff_compare (a b : Float) :
    a < b ↔ (a.toModel.unpack.compare b.toModel.unpack == some .lt) = true :=
  decide_eq_true_iff

/-- A double is not above another one if it compares as less or equal. -/
theorem le_iff_compare (a b : Float) :
    a ≤ b ↔ (a.toModel.unpack.compare b.toModel.unpack).any (·.isLE) = true :=
  decide_eq_true_iff

/-- Finite doubles compare as their values. -/
theorem compare_toModel (ha : a.isFinite = true) (hb : b.isFinite = true) :
    UnpackedFloat.compare a.toModel.unpack b.toModel.unpack = some (cmp (value a) (value b)) :=
  compare_eq_cmp (canonical_unpack _).1 (canonical_unpack _).1 ha hb

/-- Finite doubles are in the order of their values. -/
theorem lt_iff (ha : a.isFinite = true) (hb : b.isFinite = true) :
    a < b ↔ value a < value b := by
  rw [lt_iff_compare, compare_toModel ha hb, beq_iff_eq, Option.some_inj, cmp_eq_lt_iff]

/-- So they are in the weak order. -/
theorem le_iff (ha : a.isFinite = true) (hb : b.isFinite = true) :
    a ≤ b ↔ value a ≤ value b := by
  rw [le_iff_compare, compare_toModel ha hb, Option.any_some, Ordering.isLE_iff_ne_gt,
    cmp_eq_gt_iff, not_lt]

end Order

end NeighborGraph.Double
