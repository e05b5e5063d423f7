import NeighborGraph.Proofs.Scalar.Magnitudes

/-!
# Doubles taken apart

A double is unpacked to a sign, a mantissa and an exponent, which are written in one way only
(`Double.Canonical`). Packing such a number and unpacking it again gives it back, or an infinity
where its exponent is too great for a double (`Double.unpack_pack_of_le`,
`Double.unpack_pack_of_lt`). What a finite double stands for is a real number (`Double.value`).
-/

namespace NeighborGraph.Double

open Float.Model Float.Model.UnpackedFloat

/-- The unpacked number is written as those that come from doubles are: its mantissa has at most 53
bits, its exponent is not below the least one, and it has fewer bits at the least exponent only. -/
def Canonical : UnpackedFloat → Prop
  | .finite _ mantissa exponent _ =>
    mantissa < 2 ^ 53 ∧ -1074 ≤ exponent ∧ (2 ^ 52 ≤ mantissa ∨ exponent = -1074)
  | _ => True

/-! ## Unpacking -/

/-- The bits of a mantissa with a leading one before them. -/
theorem toNat_one_append (mantissa : BitVec 52) :
    (1#1 ++ mantissa).toNat = 2 ^ 52 + mantissa.toNat := by
  rw [BitVec.toNat_append, ← Nat.shiftLeft_add_eq_or_of_lt mantissa.isLt]
  rfl

/-- What is unpacked is canonical, and its exponent is not above the greatest one. -/
theorem canonical_unpack (bits : BitVec 64) :
    Canonical (UnpackedFloat.unpack Format.binary64 bits) ∧
      ∀ sign mantissa exponent h,
        UnpackedFloat.unpack Format.binary64 bits = .finite sign mantissa exponent h →
          exponent ≤ 971 := by
  have hm := (@unpackMantissa Format.binary64 bits).isLt
  have he := (@unpackExponent Format.binary64 bits).isLt
  change _ < 2 ^ 52 at hm
  change _ < 2 ^ 11 at he
  unfold UnpackedFloat.unpack
  dsimp only
  split
  · split <;> exact ⟨trivial, nofun⟩
  · next hones =>
    split
    · next hzero =>
      split
      · exact ⟨trivial, nofun⟩
      · have hexponent : ((@unpackExponent Format.binary64 bits).toNat : Int) -
            ((Format.binary64.exponentBias : Nat) + (52 : Nat)) + 1 = -1074 := by
          rw [hzero]
          rfl
        refine ⟨⟨by omega, ?_, .inr hexponent⟩, fun sign mantissa exponent h heq => ?_⟩
        · exact Int.le_of_eq hexponent.symm
        · cases heq
          exact Int.le_trans (Int.le_of_eq hexponent) (by decide)
    · next hzero =>
      have hpos : (@unpackExponent Format.binary64 bits).toNat ≠ 0 :=
        fun h => hzero (BitVec.eq_of_toNat_eq h)
      have hbelow : (@unpackExponent Format.binary64 bits).toNat ≠ 2047 :=
        fun h => hones (BitVec.eq_of_toNat_eq h)
      have hbias : Format.binary64.exponentBias = 1023 := rfl
      have hbits : Format.binary64.mantissaBitsWithoutImplicit = 52 := rfl
      have hmantissa := toNat_one_append (@unpackMantissa Format.binary64 bits)
      refine ⟨⟨?_, by omega, .inl ?_⟩, fun sign mantissa exponent h heq => ?_⟩
      · exact hmantissa ▸ by omega
      · exact hmantissa ▸ by omega
      · cases heq
        omega

/-! ## Packing -/

/-- An exponent that is neither of the outermost ones is unpacked with a leading one before the
mantissa. -/
theorem unpack_packComponents_of_ne (sign : Sign) {exponent : BitVec 11} (mantissa : BitVec 52)
    (hones : exponent ≠ -1#11) (hzero : exponent ≠ 0#11) :
    ∃ h, UnpackedFloat.unpack Format.binary64
        (packComponents Format.binary64 sign exponent mantissa) =
      .finite sign (2 ^ 52 + mantissa.toNat) ((exponent.toNat : Int) - 1075) h := by
  have hpos : 0 < 2 ^ 52 + mantissa.toNat := by omega
  refine ⟨hpos, ?_⟩
  unfold UnpackedFloat.unpack
  simp only [unpackMantissa_packComponents, unpackExponent_packComponents,
    unpackSign_packComponents, Sign.ofBitVec_toBitVec]
  rw [if_neg hones, if_neg hzero]
  simp only [toNat_one_append]
  rfl

/-- The least exponent is unpacked without a leading one. -/
theorem unpack_packComponents_zero (sign : Sign) {mantissa : BitVec 52}
    (hpos : 0 < mantissa.toNat) :
    UnpackedFloat.unpack Format.binary64
        (packComponents Format.binary64 sign 0#11 mantissa) =
      .finite sign mantissa.toNat (-1074) hpos := by
  have hne : mantissa ≠ 0#52 := by
    rintro rfl
    exact absurd hpos (by decide)
  unfold UnpackedFloat.unpack
  simp only [unpackMantissa_packComponents, unpackExponent_packComponents,
    unpackSign_packComponents, Sign.ofBitVec_toBitVec]
  rw [if_neg (zero_ne_neg_one Format.binary64), if_pos trivial, dif_neg hne]
  rfl

/-- A mantissa of 53 bits is packed without its first bit. -/
theorem unpack_packComponents_ofNat (sign : Sign) {mantissa : Nat} {exponent : Int}
    (h : 0 < mantissa) (hlarge : 2 ^ 52 ≤ mantissa) (hlt : mantissa < 2 ^ 53)
    (hmin : -1074 ≤ exponent) (hle : exponent ≤ 971) :
    UnpackedFloat.unpack Format.binary64
        (packComponents Format.binary64 sign (BitVec.ofNat 11 (exponent + 1075).toNat)
          (BitVec.ofNat 52 mantissa)) =
      .finite sign mantissa exponent h := by
  have hexponent : (BitVec.ofNat 11 (exponent + 1075).toNat).toNat = (exponent + 1075).toNat := by
    rw [BitVec.toNat_ofNat, Nat.mod_eq_of_lt (by omega)]
  have hmantissa : 2 ^ 52 + (BitVec.ofNat 52 mantissa).toNat = mantissa := by
    rw [BitVec.toNat_ofNat]
    omega
  have hones : BitVec.ofNat 11 (exponent + 1075).toNat ≠ -1#11 := by
    intro heq
    have := hexponent.symm.trans (congrArg BitVec.toNat heq)
    rw [show (-1#11 : BitVec 11).toNat = 2047 from rfl] at this
    omega
  have hzero : BitVec.ofNat 11 (exponent + 1075).toNat ≠ 0#11 := by
    intro heq
    have := hexponent.symm.trans (congrArg BitVec.toNat heq)
    rw [show (0#11 : BitVec 11).toNat = 0 from rfl] at this
    omega
  obtain ⟨hpos, heq⟩ := unpack_packComponents_of_ne sign (BitVec.ofNat 52 mantissa) hones hzero
  refine heq.trans ?_
  simp only [hmantissa, hexponent]
  congr 1
  omega

/-- The exponent is packed with its bias, for the mantissa as a natural number. -/
theorem toNat_biased (exponent : Int) :
    (exponent + (Format.binary64.exponentBias : Nat) + (52 : Nat)).toNat =
      (exponent + 1075).toNat :=
  congrArg Int.toNat (Int.add_assoc exponent 1023 52)

/-- Packing and unpacking gives back a canonical number whose exponent is one of a double. -/
theorem unpack_pack_of_le {sign : Sign} {mantissa : Nat} {exponent : Int} {h : 0 < mantissa}
    (hc : Canonical (.finite sign mantissa exponent h)) (hle : exponent ≤ 971) :
    UnpackedFloat.unpack Format.binary64
        (UnpackedFloat.pack Format.binary64 (.finite sign mantissa exponent h)) =
      .finite sign mantissa exponent h := by
  obtain ⟨hlt, hmin, hlow⟩ := hc
  have hbits : Format.binary64.mantissaBits = 53 := rfl
  unfold UnpackedFloat.pack
  simp only [toNat_biased, hbits]
  rw [if_neg (show ¬ 2 ^ 11 ≤ (exponent + 1075).toNat + 1 by omega)]
  rcases Nat.lt_or_ge mantissa (2 ^ 52) with hsmall | hlarge
  · have hlog : ¬ mantissa.log2 + 1 = 53 := by
      have := (Nat.log2_lt (Nat.ne_of_gt h)).2 hsmall
      omega
    have hnat : (BitVec.ofNat 52 mantissa).toNat = mantissa := by
      rw [BitVec.toNat_ofNat, Nat.mod_eq_of_lt hsmall]
    have hexponent : exponent = -1074 := by omega
    rw [if_neg hlog]
    refine (unpack_packComponents_zero sign (hnat.symm ▸ h)).trans ?_
    simp only [hnat, hexponent]
  · have hlog : mantissa.log2 + 1 = 53 := by
      rw [(Nat.log2_eq_iff (Nat.ne_of_gt h)).2 ⟨hlarge, hlt⟩]
    rw [if_pos hlog]
    exact unpack_packComponents_ofNat sign h hlarge hlt hmin hle

/-- A packed infinity is unpacked as it is. -/
theorem unpack_packedInfinity (sign : Sign) :
    UnpackedFloat.unpack Format.binary64 (packedInfinity Format.binary64 sign) =
      .infinity sign := by
  cases sign <;> rfl

/-- A canonical number with a greater exponent is packed as an infinity. -/
theorem unpack_pack_of_lt {sign : Sign} {mantissa : Nat} {exponent : Int} {h : 0 < mantissa}
    (hlt : 971 < exponent) :
    UnpackedFloat.unpack Format.binary64
        (UnpackedFloat.pack Format.binary64 (.finite sign mantissa exponent h)) =
      .infinity sign := by
  unfold UnpackedFloat.pack
  simp only [toNat_biased]
  rw [if_pos (show 2 ^ 11 ≤ (exponent + 1075).toNat + 1 by omega)]
  exact unpack_packedInfinity sign

/-! ## Values -/

/-- The real number that an unpacked one stands for; zero if it is not finite. -/
noncomputable def unpackedValue : UnpackedFloat → ℝ
  | .finite sign mantissa exponent _ => (sign.apply mantissa : Int) * 2 ^ exponent
  | _ => 0

/-- The real number that a double stands for; zero if it is not finite. -/
noncomputable def value (a : Float) : ℝ := unpackedValue a.toModel.unpack

/-- The greatest value of a double. -/
noncomputable def greatestValue : ℝ := (2 ^ 53 - 1) * 2 ^ (971 : ℤ)

/-- The value of a double as a part of the power of two that doubles stay below. -/
noncomputable def part (a : Float) : ℝ := value a * 2 ^ (-1024 : ℤ)

/-- The real has at most 53 significant bits and is a multiple of the least double. -/
def OnGrid (x : ℝ) : Prop := ∃ n e : ℤ, |n| < 2 ^ 53 ∧ -1074 ≤ e ∧ x = n * 2 ^ e

end NeighborGraph.Double
