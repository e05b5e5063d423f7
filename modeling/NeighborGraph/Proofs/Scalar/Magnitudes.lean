import Mathlib
import NeighborGraph.Decimal.Binary
import NeighborGraph.Scalar

/-!
# Sums of magnitudes

A sum of doubles that are not below zero is not below zero: it may be infinite, but it is never
undefined (`Double.zero_le_add`). This holds of the sum before it is rounded, and neither rounding
nor packing changes a sign. Whether a double is finite can be told from its bits
(`Double.isFinite_of_ofDouble`).
-/

namespace NeighborGraph.Double

open Float.Model Float.Model.UnpackedFloat

/-- The unpacked number is not below zero. -/
inductive NotBelowZero : UnpackedFloat → Prop
  | infinity : NotBelowZero (.infinity .positive)
  | zero (sign : Sign) : NotBelowZero (.zero sign)
  | finite (mantissa : Nat) (exponent : Int) (h : 0 < mantissa) :
    NotBelowZero (.finite .positive mantissa exponent h)

/-- Zero is not above a double exactly if this is not below zero as unpacked. -/
theorem zero_le_iff (a : Float) : (0 : Float) ≤ a ↔ NotBelowZero a.toModel.unpack := by
  have hle : (0 : Float) ≤ a ↔
      ((UnpackedFloat.zero .positive).compare a.toModel.unpack).any (·.isLE) = true :=
    decide_eq_true_iff
  rw [hle]
  cases a.toModel.unpack with
  | infinity sign =>
    cases sign with
    | negative => exact ⟨nofun, nofun⟩
    | positive => exact ⟨fun _ => .infinity, fun _ => rfl⟩
  | notANumber => exact ⟨nofun, nofun⟩
  | zero sign => exact ⟨fun _ => .zero sign, fun _ => by cases sign <;> rfl⟩
  | finite sign mantissa exponent h =>
    cases sign with
    | negative => exact ⟨nofun, nofun⟩
    | positive => exact ⟨fun _ => .finite mantissa exponent h, fun _ => rfl⟩

/-! ## Rounding -/

/-- Rounding a number with a positive sign leaves it not below zero. -/
theorem notBelowZero_round (spec : Format) (mantissa : Nat) (exponent : Int) :
    NotBelowZero (UnpackedFloat.round spec .positive mantissa exponent) := by
  unfold UnpackedFloat.round roundWithAccuracy
  dsimp only
  split
  · exact .zero _
  · exact .finite _ _ _

/-- Adding two numbers that are not below zero gives none that is. -/
theorem notBelowZero_add (spec : Format) {a b : UnpackedFloat} (ha : NotBelowZero a)
    (hb : NotBelowZero b) : NotBelowZero (UnpackedFloat.add spec a b) := by
  cases ha with
  | infinity =>
    cases hb with
    | infinity => exact .infinity
    | zero sign => exact .infinity
    | finite mantissa exponent h => exact .infinity
  | zero sign =>
    cases hb with
    | infinity => exact .infinity
    | zero sign' => cases sign <;> cases sign' <;> exact .zero _
    | finite mantissa exponent h => exact .finite mantissa exponent h
  | finite mantissa exponent h =>
    cases hb with
    | infinity => exact .infinity
    | zero sign => exact .finite mantissa exponent h
    | finite mantissa' exponent' h' =>
      dsimp only [UnpackedFloat.add, UnpackedFloat.normalize]
      split
      · next hlt =>
        have hsum := Int.compare_eq_lt.1 hlt
        dsimp only [Sign.apply] at hsum
        omega
      · exact .zero _
      · exact notBelowZero_round spec _ _

/-! ## Packing -/

/-- What is packed with a positive sign is not below zero, unless it is undefined. -/
theorem notBelowZero_unpack_packComponents (spec : Format) {exponent : BitVec spec.exponentBits}
    (mantissa : BitVec spec.mantissaBitsWithoutImplicit) (h : exponent = -1#_ → mantissa = 0#_) :
    NotBelowZero (unpack spec (packComponents spec .positive exponent mantissa)) := by
  unfold UnpackedFloat.unpack
  simp only [unpackMantissa_packComponents, unpackExponent_packComponents,
    unpackSign_packComponents, Sign.ofBitVec_toBitVec]
  split
  · next hones =>
    rw [if_pos (h hones)]
    exact .infinity
  · split
    · split
      · exact .zero _
      · exact .finite _ _ _
    · exact .finite _ _ _

/-- The least exponent is not the greatest one. -/
theorem zero_ne_neg_one (spec : Format) : (0#_ : BitVec spec.exponentBits) ≠ -1#_ := by
  intro h
  have htwo := Nat.one_lt_two_pow (Nat.ne_of_gt spec.he)
  have hnat := congrArg BitVec.toNat h
  rw [BitVec.neg_one_eq_allOnes, BitVec.toNat_allOnes, BitVec.toNat_ofNat, Nat.zero_mod] at hnat
  omega

/-- An exponent that fits is not the one of infinities. -/
theorem ofNat_ne_neg_one {n biased : Nat} (h : ¬ 2 ^ n ≤ biased + 1) :
    BitVec.ofNat n biased ≠ -1#n := by
  intro hones
  have hnat := congrArg BitVec.toNat hones
  rw [BitVec.neg_one_eq_allOnes, BitVec.toNat_allOnes, BitVec.toNat_ofNat,
    Nat.mod_eq_of_lt (by omega)] at hnat
  omega

/-- Packing and unpacking a number that is not below zero leaves it so. -/
theorem notBelowZero_unpack_pack (spec : Format) {a : UnpackedFloat} (ha : NotBelowZero a) :
    NotBelowZero (unpack spec (pack spec a)) := by
  cases ha with
  | infinity => exact notBelowZero_unpack_packComponents spec _ fun _ => rfl
  | zero sign =>
    rw [UnpackedFloat.pack, unpack_packedZero]
    exact .zero sign
  | finite mantissa exponent h =>
    unfold UnpackedFloat.pack
    dsimp only
    split
    · exact notBelowZero_unpack_packComponents spec _ fun _ => rfl
    · next hfits =>
      split
      · exact notBelowZero_unpack_packComponents spec _ fun hones =>
          absurd hones (ofNat_ne_neg_one hfits)
      · exact notBelowZero_unpack_packComponents spec _ fun hones =>
          absurd hones (zero_ne_neg_one spec)

/-- A sum of numbers that are not below zero is not below zero. -/
theorem zero_le_add {a b : Float} (ha : 0 ≤ a) (hb : 0 ≤ b) : 0 ≤ a + b :=
  (zero_le_iff (a + b)).2 (notBelowZero_unpack_pack Format.binary64
    (notBelowZero_add Format.binary64 ((zero_le_iff a).1 ha) ((zero_le_iff b).1 hb)))

/-- Adding up doubles that are not below zero gives none that is. -/
theorem zero_le_foldl_add {addends : List Float} (h : ∀ a ∈ addends, 0 ≤ a) {start : Float}
    (hstart : 0 ≤ start) : 0 ≤ addends.foldl (· + ·) start := by
  induction addends generalizing start with
  | nil => exact hstart
  | cons a addends ih =>
    exact ih (fun b hb => h b (List.mem_cons_of_mem _ hb))
      (zero_le_add hstart (h a (List.mem_cons_self ..)))

/-! ## Finite numbers -/

/-- A double that is written with digits is finite. -/
theorem isFinite_of_ofDouble {value : Float} {negative : Bool} {m : BinaryMagnitude}
    (h : BinaryNumber.ofDouble value = .finite negative m) : value.isFinite = true := by
  have hexponent : (@unpackExponent Format.binary64 value.toBits.toBitVec).toNat =
      value.toBits.toNat / 2 ^ 52 % 2 ^ 11 := by
    change (value.toBits.toNat >>> 52) % 2 ^ 11 = _
    rw [Nat.shiftRight_eq_div_pow]
  change (UnpackedFloat.unpack Format.binary64 value.toBits.toBitVec).isFinite = true
  unfold UnpackedFloat.unpack
  dsimp only
  split
  · next hones =>
    rw [hones] at hexponent
    have hbiased : value.toBits.toNat / BinaryFormat.double.fractionSize %
        BinaryFormat.double.exponentSize + 1 = BinaryFormat.double.exponentSize :=
      congrArg (· + 1) hexponent.symm
    rw [BinaryNumber.ofDouble, BinaryFormat.decode, if_pos hbiased] at h
    split at h <;> cases h
  · split
    · split <;> rfl
    · rfl

/-- A magnitude is a finite double that is not below zero. -/
theorem isMagnitude_iff (a : Float) :
    Scalar.isMagnitude a = true ↔ a.isFinite = true ∧ 0 ≤ a := by
  unfold Scalar.isMagnitude
  rw [Bool.and_eq_true, decide_eq_true_iff]
  rfl

end NeighborGraph.Double
