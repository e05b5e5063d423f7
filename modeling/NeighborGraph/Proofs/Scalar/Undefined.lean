import NeighborGraph.Color.Reader
import NeighborGraph.Proofs.Scalar.Magnitudes

/-!
# Numbers that are not undefined

Rounding and packing never make a number undefined (`Double.isNaN_unpack_pack`). A product is
undefined only if a factor is, or if one is infinite and the other one zero, so positive scales keep
numbers defined (`Double.isNaN_mul`). What decimal digits write is therefore never undefined
(`Double.isNaN_ofDecimal`), and neither is the single nearest to a number that is not
(`Single.isNaN_ofDouble`).
-/

namespace NeighborGraph

namespace Double

open Float.Model Float.Model.UnpackedFloat

/-! ## Packing and rounding -/

section Formats

variable (spec : Format)

/-- Packed components are those of a defined number, unless the exponent is the greatest one and the
mantissa is not zero. -/
theorem isNaN_unpack_packComponents (sign : Sign) {exponent : BitVec spec.exponentBits}
    {mantissa : BitVec spec.mantissaBitsWithoutImplicit} (h : exponent = -1#_ → mantissa = 0#_) :
    (unpack spec (packComponents spec sign exponent mantissa)).isNaN = false := by
  unfold UnpackedFloat.unpack
  simp only [unpackMantissa_packComponents, unpackExponent_packComponents]
  split
  · next hones =>
    rw [if_pos (h hones)]
    rfl
  · split
    · split <;> rfl
    · rfl

/-- Packing keeps numbers defined. -/
theorem isNaN_unpack_pack {u : UnpackedFloat} (hu : u.isNaN = false) :
    (unpack spec (pack spec u)).isNaN = false := by
  cases u with
  | notANumber => cases hu
  | infinity sign => exact isNaN_unpack_packComponents spec sign fun _ => rfl
  | zero sign => exact isNaN_unpack_packComponents spec sign fun _ => rfl
  | finite sign mantissa exponent h =>
    unfold UnpackedFloat.pack
    dsimp only
    split
    · exact isNaN_unpack_packComponents spec sign fun _ => rfl
    · next hfits =>
      split
      · exact isNaN_unpack_packComponents spec sign fun hones =>
          absurd hones (ofNat_ne_neg_one hfits)
      · exact isNaN_unpack_packComponents spec sign fun hones =>
          absurd hones (zero_ne_neg_one spec)

/-- What is rounded is defined. -/
theorem isNaN_roundWithAccuracy (sign : Sign) (mantissa : Nat) (exponent : Int)
    (accuracy : Accuracy) :
    (roundWithAccuracy spec sign mantissa exponent accuracy).isNaN = false := by
  unfold roundWithAccuracy
  dsimp only
  split <;> rfl

/-- What is normalized is defined. -/
theorem isNaN_normalize (mantissa exponent : Int) (zeroSign : Sign) :
    (UnpackedFloat.normalize spec mantissa exponent zeroSign).isNaN = false := by
  unfold UnpackedFloat.normalize
  split
  · exact isNaN_roundWithAccuracy ..
  · rfl
  · exact isNaN_roundWithAccuracy ..

variable {u : UnpackedFloat} {m : Nat} {e : Int} {hpos : 0 < m}

/-- A defined number times a positive finite one is defined. -/
theorem isNaN_unpacked_mul (hu : u.isNaN = false) :
    (UnpackedFloat.mul spec u (.finite .positive m e hpos)).isNaN = false := by
  cases u with
  | notANumber => cases hu
  | infinity sign | zero sign => rfl
  | finite sign m' e' h => exact isNaN_roundWithAccuracy ..

/-- A defined number divided by a positive finite one is defined. -/
theorem isNaN_unpacked_div (hu : u.isNaN = false) :
    (UnpackedFloat.div spec u (.finite .positive m e hpos)).isNaN = false := by
  cases u with
  | notANumber => cases hu
  | infinity sign | zero sign => rfl
  | finite sign m' e' h => exact isNaN_roundWithAccuracy ..

/-- A decimal number is defined. -/
theorem isNaN_unpacked_ofScientific (significand : Nat) (exponent : Int) :
    (UnpackedFloat.ofScientific spec significand exponent).isNaN = false := by
  unfold UnpackedFloat.ofScientific
  split
  · rfl
  · split
    · rfl
    · split
      · rfl
      · split
        · exact isNaN_unpacked_mul spec rfl
        · exact isNaN_unpacked_div spec rfl

end Formats

/-! ## Doubles -/

variable {a b : Float}

/-- A positive double is taken apart into a positive mantissa and an exponent. -/
theorem exists_unpack_eq (h : Scalar.isPositive b = true) :
    ∃ m e hpos, b.toModel.unpack = .finite .positive m e hpos := by
  obtain ⟨hfinite, hlt⟩ := Bool.and_eq_true_iff.1 h
  have hlt : ((UnpackedFloat.zero .positive).compare b.toModel.unpack == some .lt) = true :=
    decide_eq_true_iff.1 (decide_eq_true_iff.1 hlt)
  change b.toModel.unpack.isFinite = true at hfinite
  cases hu : b.toModel.unpack <;> rw [hu] at hfinite hlt
  case infinity => cases hfinite
  case notANumber => cases hfinite
  case zero => cases hlt
  case finite sign m e hpos =>
    cases sign with
    | negative => cases hlt
    | positive => exact ⟨m, e, hpos, rfl⟩

/-- A positive double is defined. -/
theorem isNaN_of_isPositive (hb : Scalar.isPositive b = true) : b.isNaN = false := by
  obtain ⟨m, e, hpos, hu⟩ := exists_unpack_eq hb
  exact (congrArg UnpackedFloat.isNaN hu).trans rfl

/-- A positive scale keeps numbers defined. -/
theorem isNaN_mul (ha : a.isNaN = false) (hb : Scalar.isPositive b = true) :
    (a * b).isNaN = false := by
  obtain ⟨m, e, hpos, hu⟩ := exists_unpack_eq hb
  refine isNaN_unpack_pack Format.binary64 ?_
  rw [hu]
  exact isNaN_unpacked_mul Format.binary64 ha

/-- A defined double divided by a positive one is defined. -/
theorem isNaN_div (ha : a.isNaN = false) (hb : Scalar.isPositive b = true) :
    (a / b).isNaN = false := by
  obtain ⟨m, e, hpos, hu⟩ := exists_unpack_eq hb
  refine isNaN_unpack_pack Format.binary64 ?_
  rw [hu]
  exact isNaN_unpacked_div Format.binary64 ha

/-- The opposite of a defined double is defined. -/
theorem isNaN_neg (ha : a.isNaN = false) : (-a).isNaN = false := by
  refine isNaN_unpack_pack Format.binary64 ?_
  change a.toModel.unpack.isNaN = false at ha
  cases hu : a.toModel.unpack <;> rw [hu] at ha <;> first | rfl | cases ha

/-- What decimal digits write is not undefined. -/
theorem isNaN_ofDecimal (significand : Nat) (exponent : Int) :
    (ofDecimal significand exponent).isNaN = false := by
  have htable : ∀ e : Fin Float.exactlyRepresentablePowersOfTen.size,
      Scalar.isPositive Float.exactlyRepresentablePowersOfTen[e] = true := by decide +kernel
  have hpowers (e : Nat) (h : e < Float.exactlyRepresentablePowersOfTen.size) :
      Scalar.isPositive Float.exactlyRepresentablePowersOfTen[e] = true := htable ⟨e, h⟩
  unfold ofDecimal
  dsimp only
  split
  · rfl
  · split
    · decide +kernel
    · unfold Float.ofScientific
      split
      · next h =>
        have hnat : significand.toUInt64.toFloat.isNaN = false :=
          isNaN_unpack_pack Format.binary64 (isNaN_normalize ..)
        dsimp only
        split
        · exact isNaN_div hnat (hpowers _ _)
        · exact isNaN_mul hnat (hpowers _ _)
      · exact isNaN_unpack_pack Format.binary64 (isNaN_unpacked_ofScientific ..)

end Double

namespace Single

open Float.Model

/-- The single nearest to a double is not undefined if the double is not. -/
theorem isNaN_ofDouble {a : Float} (ha : a.isNaN = false) : (ofDouble a).isNaN = false := by
  refine Double.isNaN_unpack_pack Format.binary32 ?_
  change a.toModel.unpack.isNaN = false at ha
  split
  · exact Double.isNaN_roundWithAccuracy ..
  · exact ha

end Single

end NeighborGraph
