import NeighborGraph.Proofs.Scalar.Arithmetic

/-!
# Running extremes

The order of doubles is that of the extended reals, save that an undefined double is not comparable
to anything (`Double.le_iff_extended`). `Scalar.greater` and `Scalar.lesser` let an undefined
operand yield, so that a running maximum is one of its operands and bounds the others except for
those that are undefined (`Double.isExtreme_foldl_greater`): these it hides.
-/

namespace NeighborGraph.Double

open Float.Model Float.Model.UnpackedFloat

/-! ## The order of doubles -/

/-- The extended real that a double stands for; zero if it is undefined. -/
noncomputable def extended (a : Float) : EReal :=
  match a.toModel.unpack with
  | .infinity .positive => ⊤
  | .infinity .negative => ⊥
  | u => (unpackedValue u : ℝ)

variable {a b c : Float}

/-- A finite double stands for its value. -/
theorem extended_of_isFinite (h : a.isFinite = true) : extended a = (value a : ℝ) := by
  have hne := ne_infinity h
  unfold extended
  split
  · next hu => exact absurd hu (hne _)
  · next hu => exact absurd hu (hne _)
  · rfl

/-- A double is finite, an infinity or undefined. -/
theorem cases_double (a : Float) :
    a.isFinite = true ∨ (a.isNaN = false ∧ (extended a = ⊤ ∨ extended a = ⊥)) ∨ a.isNaN = true := by
  unfold extended Float.isFinite Float.isNaN Float.Model.isFinite Float.Model.isNaN
  cases a.toModel.unpack with
  | infinity sign => cases sign <;> simp [UnpackedFloat.isNaN]
  | notANumber => exact .inr (.inr rfl)
  | zero sign => exact .inl rfl
  | finite sign m e h => exact .inl rfl

/-- A finite double is defined. -/
theorem isNaN_of_isFinite (h : a.isFinite = true) : a.isNaN = false := by
  unfold Float.isFinite Float.Model.isFinite at h
  unfold Float.isNaN Float.Model.isNaN
  cases hu : a.toModel.unpack <;> rw [hu] at h <;> first | rfl | cases h

/-- A double is finite if it is defined and stands for neither infinity. -/
theorem isFinite_iff_extended :
    a.isFinite = true ↔ a.isNaN = false ∧ extended a ≠ ⊤ ∧ extended a ≠ ⊥ := by
  constructor
  · intro h
    rw [extended_of_isFinite h]
    exact ⟨isNaN_of_isFinite h, EReal.coe_ne_top _, EReal.coe_ne_bot _⟩
  · rintro ⟨hnan, htop, hbot⟩
    rcases cases_double a with h | ⟨-, h | h⟩ | h
    · exact h
    · exact absurd h htop
    · exact absurd h hbot
    · rw [hnan] at h
      cases h

/-- Reals compare among the extended ones as they do among themselves. -/
theorem cmp_coe (x y : ℝ) : cmp (x : EReal) y = cmp x y := EReal.coe_strictMono.cmp_map_eq x y

/-- The infinity with the given sign. -/
noncomputable def infinite : Sign → EReal
  | .positive => ⊤
  | .negative => ⊥

/-- An infinity compares with a finite number as it does among the extended reals. -/
theorem compare_infinity_finite (sign : Sign) {v : UnpackedFloat} (h : v.isFinite = true) :
    UnpackedFloat.compare (.infinity sign) v =
      some (cmp (infinite sign) ((unpackedValue v : ℝ) : EReal)) := by
  cases sign with
  | negative =>
    refine Eq.trans ?_ (some_lt_eq_cmp (EReal.bot_lt_coe _))
    cases v <;> first | rfl | cases h
  | positive =>
    refine Eq.trans ?_ (some_gt_eq_cmp (EReal.coe_lt_top _))
    cases v <;> first | rfl | cases h

/-- A finite number compares with an infinity as it does among the extended reals. -/
theorem compare_finite_infinity (sign : Sign) {u : UnpackedFloat} (h : u.isFinite = true) :
    UnpackedFloat.compare u (.infinity sign) =
      some (cmp ((unpackedValue u : ℝ) : EReal) (infinite sign)) := by
  cases sign with
  | negative =>
    refine Eq.trans ?_ (some_gt_eq_cmp (EReal.bot_lt_coe _))
    cases u <;> first | rfl | cases h
  | positive =>
    refine Eq.trans ?_ (some_lt_eq_cmp (EReal.coe_lt_top _))
    cases u <;> first | rfl | cases h

/-- Doubles that are not undefined are compared as extended reals. -/
theorem compare_extended (ha : a.isNaN = false) (hb : b.isNaN = false) :
    UnpackedFloat.compare a.toModel.unpack b.toModel.unpack =
      some (cmp (extended a) (extended b)) := by
  have hu : Canonical a.toModel.unpack := (canonical_unpack _).1
  have hv : Canonical b.toModel.unpack := (canonical_unpack _).1
  unfold Float.isNaN Float.Model.isNaN at ha hb
  unfold extended
  generalize a.toModel.unpack = u at ha hu
  generalize b.toModel.unpack = v at hb hv
  cases u with
  | notANumber => cases ha
  | infinity sign =>
    cases v with
    | notANumber => cases hb
    | infinity sign' =>
      cases sign with
      | negative =>
        cases sign' with
        | negative => exact congrArg some (cmp_self_eq_eq ⊥).symm
        | positive => exact some_lt_eq_cmp bot_lt_top
      | positive =>
        cases sign' with
        | negative => exact some_gt_eq_cmp bot_lt_top
        | positive => exact congrArg some (cmp_self_eq_eq ⊤).symm
    | zero sign' => cases sign <;> exact compare_infinity_finite _ (v := .zero sign') rfl
    | finite sign' m e h =>
      cases sign <;> exact compare_infinity_finite _ (v := .finite sign' m e h) rfl
  | zero sign =>
    cases v with
    | notANumber => cases hb
    | infinity sign' => cases sign' <;> exact compare_finite_infinity _ (u := .zero sign) rfl
    | zero sign' => exact (compare_eq_cmp hu hv rfl rfl).trans (congrArg some (cmp_coe ..).symm)
    | finite sign' m e h =>
      exact (compare_eq_cmp hu hv rfl rfl).trans (congrArg some (cmp_coe ..).symm)
  | finite sign m e h =>
    cases v with
    | notANumber => cases hb
    | infinity sign' =>
      cases sign' <;> exact compare_finite_infinity _ (u := .finite sign m e h) rfl
    | zero sign' => exact (compare_eq_cmp hu hv rfl rfl).trans (congrArg some (cmp_coe ..).symm)
    | finite sign' m' e' h' =>
      exact (compare_eq_cmp hu hv rfl rfl).trans (congrArg some (cmp_coe ..).symm)

/-- An undefined double is not comparable to anything. -/
theorem compare_of_isNaN (h : a.isNaN = true ∨ b.isNaN = true) :
    UnpackedFloat.compare a.toModel.unpack b.toModel.unpack = none := by
  unfold Float.isNaN Float.Model.isNaN at h
  generalize a.toModel.unpack = u at h
  generalize b.toModel.unpack = v at h
  rcases h with h | h
  · cases u <;> first | (cases v <;> rfl) | cases h
  · cases v <;> first | (cases u <;> rfl) | cases h

/-- Doubles that compare as less or equal are defined. -/
theorem isNaN_of_le (h : a ≤ b) : a.isNaN = false ∧ b.isNaN = false := by
  rw [le_iff_compare] at h
  by_contra hnan
  have hnan' : a.isNaN = true ∨ b.isNaN = true := by
    rwa [not_and_or, Bool.not_eq_false, Bool.not_eq_false] at hnan
  rw [compare_of_isNaN hnan'] at h
  cases h

/-- Doubles that compare as less are defined. -/
theorem isNaN_of_lt (h : a < b) : a.isNaN = false ∧ b.isNaN = false := by
  rw [lt_iff_compare] at h
  by_contra hnan
  have hnan' : a.isNaN = true ∨ b.isNaN = true := by
    rwa [not_and_or, Bool.not_eq_false, Bool.not_eq_false] at hnan
  rw [compare_of_isNaN hnan'] at h
  cases h

/-- Defined doubles are weakly in the order of what they stand for. -/
theorem le_iff_extended (ha : a.isNaN = false) (hb : b.isNaN = false) :
    a ≤ b ↔ extended a ≤ extended b := by
  rw [le_iff_compare, compare_extended ha hb, Option.any_some, Ordering.isLE_iff_ne_gt,
    cmp_eq_gt_iff, not_lt]

/-- Defined doubles are in the order of what they stand for. -/
theorem lt_iff_extended (ha : a.isNaN = false) (hb : b.isNaN = false) :
    a < b ↔ extended a < extended b := by
  rw [lt_iff_compare, compare_extended ha hb, beq_iff_eq, Option.some_inj, cmp_eq_lt_iff]

/-- A double is not above itself exactly if it is defined. -/
theorem le_self_iff : a ≤ a ↔ a.isNaN = false :=
  ⟨fun h => (isNaN_of_le h).1, fun h => (le_iff_extended h h).2 le_rfl⟩

/-- The weak order is transitive, undefined doubles or not. -/
theorem trans_le (hab : a ≤ b) (hbc : b ≤ c) : a ≤ c := by
  obtain ⟨ha, hb⟩ := isNaN_of_le hab
  obtain ⟨-, hc⟩ := isNaN_of_le hbc
  exact (le_iff_extended ha hc).2
    (((le_iff_extended ha hb).1 hab).trans ((le_iff_extended hb hc).1 hbc))

/-- What is not above a lesser double is less. -/
theorem trans_lt (hab : a ≤ b) (hbc : b < c) : a < c := by
  obtain ⟨ha, hb⟩ := isNaN_of_le hab
  obtain ⟨-, hc⟩ := isNaN_of_lt hbc
  exact (lt_iff_extended ha hc).2
    (((le_iff_extended ha hb).1 hab).trans_lt ((lt_iff_extended hb hc).1 hbc))

/-- Of two defined doubles, the one that is not greater is less or equal. -/
theorem le_of_not_lt (ha : a.isNaN = false) (hb : b.isNaN = false) (h : ¬ b < a) : a ≤ b := by
  rw [lt_iff_extended hb ha, not_lt] at h
  exact (le_iff_extended ha hb).2 h

/-- What is less is less or equal. -/
theorem le_of_lt (h : a < b) : a ≤ b := by
  obtain ⟨ha, hb⟩ := isNaN_of_lt h
  exact (le_iff_extended ha hb).2 ((lt_iff_extended ha hb).1 h).le

/-! ## Running extremes -/

/-- A way to compare doubles that are not undefined. -/
structure IsOrder (le : Float → Float → Prop) : Prop where
  refl : ∀ {a}, a.isNaN = false → le a a
  trans : ∀ {a b c}, le a b → le b c → le a c
  isNaN : ∀ {a b}, le a b → b.isNaN = false

/-- The weak order compares defined doubles. -/
theorem isOrder_le : IsOrder fun a b => a ≤ b :=
  ⟨le_self_iff.2, trans_le, fun h => (isNaN_of_le h).2⟩

/-- So does the weak order the other way. -/
theorem isOrder_ge : IsOrder fun a b => b ≤ a :=
  ⟨le_self_iff.2, fun h h' => trans_le h' h, fun h => (isNaN_of_le h).1⟩

/-- The double is one of a list, and all others that are not undefined come before it. -/
structure IsExtreme (le : Float → Float → Prop) (m : Float) (xs : List Float) : Prop where
  mem : m ∈ xs
  bound : ∀ x ∈ xs, x.isNaN = true ∨ le x m

variable {le : Float → Float → Prop}

/-- Choosing the last one of two doubles over and over gives the last one of all. -/
theorem isExtreme_foldl (hle : IsOrder le) {choose : Float → Float → Float}
    (hchoose : ∀ a b, IsExtreme le (choose a b) [a, b]) (a : Float) (xs : List Float) :
    IsExtreme le (xs.foldl choose a) (a :: xs) := by
  induction xs generalizing a with
  | nil =>
    refine ⟨List.mem_singleton_self a, fun x hx => ?_⟩
    rw [List.mem_singleton.1 hx]
    cases ha : a.isNaN with
    | true => exact .inl rfl
    | false => exact .inr (hle.refl ha)
  | cons x xs ih =>
    obtain ⟨hmem, hbound⟩ := ih (choose a x)
    obtain ⟨hmem₂, hbound₂⟩ := hchoose a x
    rw [List.foldl_cons]
    constructor
    · rcases List.mem_cons.1 hmem with heq | hmem
      · rw [heq]
        exact List.mem_append_left xs hmem₂
      · exact List.mem_append_right [a, x] hmem
    · -- What comes before the choice of two comes before the choice of all.
      have hpair : ∀ y ∈ [a, x], y.isNaN = true ∨ le y (xs.foldl choose (choose a x)) := by
        intro y hy
        refine (hbound₂ y hy).imp_right fun hy => ?_
        rcases hbound _ List.mem_cons_self with hnan | hlast
        · rw [hle.isNaN hy] at hnan
          cases hnan
        · exact hle.trans hy hlast
      intro y hy
      rcases List.mem_append.1 (show y ∈ [a, x] ++ xs from hy) with hy | hy
      · exact hpair y hy
      · exact hbound y (List.mem_cons_of_mem _ hy)

/-- The choice that an undefined operand yields in. -/
theorem isExtreme_choose (hle : IsOrder le) {a b : Float} {P : Prop} [Decidable P]
    (hP : P → le b a) (hP' : ¬ P → a.isNaN = false → b.isNaN = false → le a b) :
    IsExtreme le (if P ∨ ¬ b ≤ b then a else b) [a, b] := by
  have hself : ∀ x : Float, x.isNaN = true ∨ le x x := fun x => by
    cases hx : x.isNaN with
    | true => exact .inl rfl
    | false => exact .inr (hle.refl hx)
  split
  · next h =>
    refine ⟨List.mem_cons_self, fun x hx => ?_⟩
    rcases List.mem_pair.1 hx with rfl | rfl
    · exact hself x
    · refine h.symm.imp (fun h => ?_) hP
      rwa [le_self_iff, Bool.not_eq_false] at h
  · next h =>
    obtain ⟨hnot, hb⟩ := not_or.1 h
    rw [not_not, le_self_iff] at hb
    refine ⟨List.mem_cons_of_mem _ List.mem_cons_self, fun x hx => ?_⟩
    rcases List.mem_pair.1 hx with rfl | rfl
    · cases hx : x.isNaN with
      | true => exact .inl rfl
      | false => exact .inr (hP' hnot hx hb)
    · exact hself x

/-- The greater of two doubles is above both, as far as these are defined. -/
theorem isExtreme_greater (a b : Float) :
    IsExtreme (fun a b => a ≤ b) (Scalar.greater a b) [a, b] :=
  isExtreme_choose isOrder_le le_of_lt fun h ha hb => le_of_not_lt ha hb h

/-- The lesser of two doubles is below both, as far as these are defined. -/
theorem isExtreme_lesser (a b : Float) :
    IsExtreme (fun a b => b ≤ a) (Scalar.lesser a b) [a, b] :=
  isExtreme_choose isOrder_ge le_of_lt fun h ha hb => le_of_not_lt hb ha h

/-- The running maximum of doubles hides those that are undefined, and bounds all others. -/
theorem isExtreme_foldl_greater (a : Float) (xs : List Float) :
    IsExtreme (fun a b => a ≤ b) (xs.foldl Scalar.greater a) (a :: xs) :=
  isExtreme_foldl isOrder_le isExtreme_greater a xs

/-- The least of some doubles, taken one after another, is below all that are defined. -/
theorem isExtreme_foldl_lesser (a : Float) (xs : List Float) :
    IsExtreme (fun a b => b ≤ a) (xs.foldl Scalar.lesser a) (a :: xs) :=
  isExtreme_foldl isOrder_ge isExtreme_lesser a xs

end NeighborGraph.Double
