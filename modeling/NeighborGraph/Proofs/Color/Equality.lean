import NeighborGraph.Proofs.Color.Reading

/-!
# Equality of colors

Colors are compared by their spaces, the way they were written and their components as numbers. So
equality is symmetric and transitive, and it fails to be reflexive where a component is undefined,
which takes a change of opacity (`Color.beq_self_iff`, `Color.isRead_of_parse`). Equal colors are
the same unless a component is zero in both, with different signs (`Color.eq_iff_zerosAgree`): only
such colors can be equal and have different texts.
-/

namespace NeighborGraph.Color

variable {a b c : Color}

/-! ## Components -/

/-- Both zeros are numbers, and they are two. -/
theorem zeros_ne : (0 : Float32) ≠ .nan ∧ (-0 : Float32) ≠ .nan ∧ (0 : Float32) ≠ -0 := by
  decide +kernel

/-- Components are the same if they are equal or are zeros of either sign, and if none of them is
undefined. -/
theorem sameComponent_iff {x y : Option Float32} : sameComponent x y = true ↔
    (∀ z ∈ x, z.isNaN = false) ∧
      (x = y ∨ (x = some 0 ∧ y = some (-0)) ∨ (x = some (-0) ∧ y = some 0)) := by
  cases x with
  | none => cases y <;> simp [sameComponent]
  | some x =>
    cases y with
    | none => simp [sameComponent]
    | some y =>
      simp only [sameComponent, Float32.beq_iff_ne_nan_and_eq, Option.mem_def, Option.some_inj,
        forall_eq', Float32.isNaN_eq_decide_eq_nan, decide_eq_false_iff_not]
      constructor
      · rintro ⟨hx, -, h⟩
        exact ⟨hx, h⟩
      · rintro ⟨hx, rfl | ⟨rfl, rfl⟩ | ⟨rfl, rfl⟩⟩
        · exact ⟨hx, hx, .inl rfl⟩
        · exact ⟨hx, zeros_ne.2.1, .inr (.inl ⟨rfl, rfl⟩)⟩
        · exact ⟨hx, zeros_ne.1, .inr (.inr ⟨rfl, rfl⟩)⟩

/-- It does not matter which of two components comes first. -/
theorem sameComponent_comm (x y : Option Float32) : sameComponent x y = sameComponent y x := by
  cases x with
  | none => cases y <;> rfl
  | some x =>
    cases y with
    | none => rfl
    | some y => exact BEq.comm

/-- Components that are the same as a third one are the same. -/
theorem sameComponent_trans {x y z : Option Float32} (hxy : sameComponent x y = true)
    (hyz : sameComponent y z = true) : sameComponent x z = true := by
  cases x with
  | none => cases y <;> first | exact hyz | cases hxy
  | some x =>
    cases y with
    | none => cases hxy
    | some y =>
      cases z with
      | none => cases hyz
      | some z => exact PartialEquivBEq.trans hxy hyz

/-- A component is the same as itself unless it is undefined. -/
theorem sameComponent_self_iff {x : Option Float32} :
    sameComponent x x = true ↔ ∀ z ∈ x, z.isNaN = false :=
  sameComponent_iff.trans (and_iff_left (.inl rfl))

/-! ## Equality -/

/-- Colors are equal if their components are, in the same space and written in the same way. -/
theorem beq_iff : (a == b) = true ↔ (a.space = b.space ∧ a.writtenAs = b.writtenAs) ∧
    List.Forall₂ (fun x y => sameComponent x y = true) a.components b.components := by
  change same a b = true ↔ _
  simp [same, components, and_assoc]

/-- Equality of colors is symmetric, undefined components or not. -/
theorem beq_symm (h : (a == b) = true) : (b == a) = true := by
  obtain ⟨⟨hspace, hwritten⟩, hcomponents⟩ := beq_iff.1 h
  refine beq_iff.2 ⟨⟨hspace.symm, hwritten.symm⟩, hcomponents.flip.imp fun x y hxy => ?_⟩
  rwa [sameComponent_comm]

/-- Equality of colors is transitive, undefined components or not. -/
theorem beq_trans (hab : (a == b) = true) (hbc : (b == c) = true) : (a == c) = true := by
  obtain ⟨⟨hspace, hwritten⟩, hcomponents⟩ := beq_iff.1 hab
  obtain ⟨⟨hspace', hwritten'⟩, hcomponents'⟩ := beq_iff.1 hbc
  refine beq_iff.2 ⟨⟨hspace.trans hspace', hwritten.trans hwritten'⟩, ?_⟩
  simp only [components, List.forall₂_cons] at hcomponents hcomponents' ⊢
  obtain ⟨h₁, h₂, h₃, ho, -⟩ := hcomponents
  obtain ⟨h₁', h₂', h₃', ho', -⟩ := hcomponents'
  exact ⟨sameComponent_trans h₁ h₁', sameComponent_trans h₂ h₂', sameComponent_trans h₃ h₃',
    sameComponent_trans ho ho', .nil⟩

/-- A color equals itself if no component of it is undefined. -/
theorem beq_self_iff : (a == a) = true ↔ a.IsDefined := by
  rw [beq_iff, and_iff_right ⟨rfl, rfl⟩, List.forall₂_same]
  exact forall₂_congr fun component _ => sameComponent_self_iff

/-- No component is zero in both colors with different signs. -/
def ZerosAgree (a b : Color) : Prop :=
  List.Forall₂ (fun x y => ¬ (x = some 0 ∧ y = some (-0)) ∧ ¬ (x = some (-0) ∧ y = some 0))
    a.components b.components

/-- A color is told by its space, by how it is written, and by its components. -/
theorem eq_of_components_eq (hspace : a.space = b.space) (hwritten : a.writtenAs = b.writtenAs)
    (hcomponents : a.components = b.components) : a = b := by
  obtain ⟨space, writtenAs, first, second, third, opacity⟩ := a
  obtain ⟨space', writtenAs', first', second', third', opacity'⟩ := b
  simp only [components, List.cons.injEq] at hspace hwritten hcomponents
  obtain ⟨rfl, rfl, rfl, rfl, -⟩ := hcomponents
  rw [hspace, hwritten]

/-- Equal colors are the same if the signs of their zeros are, and only then. -/
theorem eq_iff_zerosAgree (h : (a == b) = true) : a = b ↔ a.ZerosAgree b := by
  constructor
  · rintro rfl
    refine List.forall₂_same.2 fun x _ => ⟨?_, ?_⟩
    · rintro ⟨rfl, hx⟩
      exact zeros_ne.2.2 (Option.some.inj hx)
    · rintro ⟨rfl, hx⟩
      exact zeros_ne.2.2 (Option.some.inj hx).symm
  · intro hzeros
    obtain ⟨⟨hspace, hwritten⟩, hsame⟩ := beq_iff.1 h
    have hcomponent {x y : Option Float32} (hxy : sameComponent x y = true)
        (hzero : ¬ (x = some 0 ∧ y = some (-0)) ∧ ¬ (x = some (-0) ∧ y = some 0)) : x = y := by
      obtain heq | hmixed | hmixed := (sameComponent_iff.1 hxy).2
      · exact heq
      · exact absurd hmixed hzero.1
      · exact absurd hmixed hzero.2
    refine eq_of_components_eq hspace hwritten ?_
    simp only [ZerosAgree, components, List.forall₂_cons] at hsame hzeros ⊢
    obtain ⟨h₁, h₂, h₃, ho, -⟩ := hsame
    obtain ⟨hz₁, hz₂, hz₃, hzo, -⟩ := hzeros
    rw [hcomponent h₁ hz₁, hcomponent h₂ hz₂, hcomponent h₃ hz₃, hcomponent ho hzo]

/-! ## Changes of opacity -/

/-- A change of opacity undoes the one before. -/
theorem withAlpha_withAlpha (c : Color) (α β : Float32) :
    (c.withAlpha α).withAlpha β = c.withAlpha β := by
  obtain ⟨space, writtenAs, first, second, third, _ | opacity⟩ := c <;> rfl

/-- Of several changes of opacity the last one counts. -/
theorem foldl_withAlpha (c : Color) (alphas : List Float32) :
    alphas.foldl withAlpha c = (alphas.getLast?.map c.withAlpha).getD c := by
  induction alphas generalizing c with
  | nil => rfl
  | cons α rest ih =>
    rw [List.foldl_cons, ih, List.getLast?_cons]
    cases rest.getLast? with
    | none => rfl
    | some β => exact c.withAlpha_withAlpha α β

/-- A change of opacity brings in nothing undefined but the opacity itself. -/
theorem isDefined_withAlpha_iff (h : c.IsDefined) (α : Float32) :
    (c.withAlpha α).IsDefined ↔ c.opacity = none ∨ α.isNaN = false := by
  obtain ⟨space, writtenAs, first, second, third, _ | opacity⟩ := c
  · exact iff_of_true h (.inl rfl)
  · simp only [IsDefined, components, withAlpha, List.forall_mem_cons] at h ⊢
    obtain ⟨h₁, h₂, h₃, -⟩ := h
    constructor
    · rintro ⟨-, -, -, hα, -⟩
      exact .inr (hα α rfl)
    · rintro (hnone | hα)
      · cases hnone
      · refine ⟨h₁, h₂, h₃, ?_, List.forall_mem_nil _⟩
        rintro _ ⟨⟩
        exact hα

/-- After any changes of opacity, a color that was defined is so unless the last opacity is not. -/
theorem isDefined_foldl_withAlpha_iff (h : c.IsDefined) (alphas : List Float32) :
    (alphas.foldl withAlpha c).IsDefined ↔
      c.opacity = none ∨ ∀ α ∈ alphas.getLast?, α.isNaN = false := by
  rw [foldl_withAlpha]
  cases alphas.getLast? with
  | none => exact iff_of_true h (.inr nofun)
  | some α => simpa only [Option.map_some, Option.getD_some, Option.mem_def, Option.some_inj,
      forall_eq'] using isDefined_withAlpha_iff h α

/-! ## The laws -/

/-- How far equality of colors is an equivalence, and agrees with their texts.

Let a color be read and then changed in opacity any number of times. It equals itself unless the
last opacity is undefined and took the place of another one. What it equals equals it, and whatever
that equals, it equals as well. An equal color is the same color if no component is zero in both
with different signs, and only then; it then has the same text. -/
theorem equality_laws (text : String) (base : Color) (hbase : parse text = .ok base)
    (alphas : List Float32) (a b : Color) :
    let c := alphas.foldl withAlpha base
    ((c == c) = true ↔ base.opacity = none ∨ ∀ α ∈ alphas.getLast?, α.isNaN = false) ∧
      ((c == a) = true → (a == c) = true) ∧
      ((c == a) = true → (a == b) = true → (c == b) = true) ∧
      ((c == a) = true → (c = a ↔ c.ZerosAgree a) ∧ (c.ZerosAgree a → c.text = a.text)) := by
  intro c
  have hdefined := (isRead_of_parse hbase).defined
  refine ⟨beq_self_iff.trans (isDefined_foldl_withAlpha_iff hdefined alphas), beq_symm, beq_trans,
    fun hequal => ⟨eq_iff_zerosAgree hequal, fun hzeros => ?_⟩⟩
  rw [(eq_iff_zerosAgree hequal).2 hzeros]

/-- A red in hexadecimal digits, made transparent and opaque again, is the red of a generic
function. -/
theorem equality_laws_reds : ∃ hex generic : Color,
    parse "#f00" = .ok hex ∧ parse "color(srgb 1 0 0)" = .ok generic ∧
    let c := [0.5, 1].foldl withAlpha hex
    (c == c) = true ∧ (generic == c) = true ∧ c = generic ∧ c.text = generic.text := by
  have hboth : (do
      let hex ← parse "#f00"
      let generic ← parse "color(srgb 1 0 0)"
      let c := [0.5, 1].foldl withAlpha hex
      return (c == generic, generic == c, c.components, generic.components)).toOption =
      some (true, true, [some 1, some 0, some 0, some 1], [some 1, some 0, some 0, some 1]) := by
    decide +kernel
  obtain ⟨hex, hhex, hrest⟩ := Except.bind_eq_ok.1 (Except.toOption_eq_some.1 hboth)
  obtain ⟨generic, hgeneric, hrest⟩ := Except.bind_eq_ok.1 hrest
  simp only [pure, Except.pure, Except.ok.injEq, Prod.mk.injEq] at hrest
  obtain ⟨hequal, hreverse, hcomponents, hcomponents'⟩ := hrest
  have hzeros : ([0.5, 1].foldl withAlpha hex).ZerosAgree generic := by
    rw [ZerosAgree, hcomponents, hcomponents']
    decide +kernel
  obtain ⟨-, hsymm, htrans, htext⟩ :=
    equality_laws "#f00" hex hhex [0.5, 1] generic ([0.5, 1].foldl withAlpha hex)
  obtain ⟨hsame, htext⟩ := htext hequal
  exact ⟨hex, generic, hhex, hgeneric, htrans hequal hreverse, hsymm hequal, hsame.2 hzeros,
    htext hzeros⟩

/-- An undefined opacity makes a color unequal to itself. Black with a red of zero and black with a
red of minus zero are equal and have different texts. -/
theorem not_equality_laws :
    ((parse "black").map fun black => black.withAlpha (0 / 0) == black.withAlpha (0 / 0)).toOption =
      some false ∧
    (do
      let zero ← parse "color(srgb 0 0 0)"
      let minusZero ← parse "color(srgb -0 0 0)"
      return (zero == minusZero, zero.text, minusZero.text)).toOption =
      some (true, "color(srgb 0 0 0)", "color(srgb -0 0 0)") := by
  constructor <;> decide +kernel

end NeighborGraph.Color
