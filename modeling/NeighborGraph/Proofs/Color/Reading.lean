import NeighborGraph.Proofs.Color.Text
import NeighborGraph.Proofs.Except
import NeighborGraph.Proofs.Scalar.Undefined

/-!
# Colors that are read

Whatever a text writes, the color that is read from it has the name of a color if it is written by a
name, and no component of it is undefined (`Color.isRead_of_parse`): a component may be infinite,
but it is never the product of an infinite number and a scale of zero.
-/

namespace NeighborGraph.Color

/-! ## Numbers and tokens -/

/-- The number that is there, if there is one, is not undefined. -/
def Defined (a : Option Float) : Prop := ∀ x ∈ a, x.isNaN = false

/-- A component that is missing is not undefined. -/
theorem defined_none : Defined none := nofun

/-- A number that is defined is a defined component. -/
theorem defined_some {x : Float} (h : x.isNaN = false) : Defined (some x) := by
  rintro _ ⟨⟩
  exact h

/-- What takes defined numbers to defined numbers takes defined components to defined components. -/
theorem Defined.map {a : Option Float} (ha : Defined a) {f : Float → Float}
    (hf : ∀ x, x.isNaN = false → (f x).isNaN = false) : Defined (a.map f) := by
  intro y hy
  obtain ⟨x, hx, rfl⟩ := Option.mem_map.1 hy
  exact hf x (ha x hx)

/-- A number that is kept between two bounds stays defined. -/
theorem isNaN_clamp {low high x : Float} (hlow : low.isNaN = false) (hhigh : high.isNaN = false)
    (hx : x.isNaN = false) : (clamp low high x).isNaN = false := by
  unfold clamp
  split
  · exact hlow
  · split
    · exact hhigh
    · exact hx

/-- The numbers that components are cut off at and multiplied by. -/
theorem isPositive_scales : (0.0 : Float).isNaN = false ∧
    Scalar.isPositive (1.0 : Float) = true ∧ Scalar.isPositive (0.01 : Float) = true ∧
    Scalar.isPositive (1.0 / 255.0 : Float) = true := by
  decide +kernel

/-- A number that is kept from being negative stays defined. -/
theorem isNaN_atLeastZero {x : Float} (hx : x.isNaN = false) :
    (atLeastZero x).isNaN = false := by
  unfold atLeastZero
  split
  · exact hx
  · exact isPositive_scales.1

/-- A component that is kept between zero and a bound stays defined. -/
theorem Defined.clamp {a : Option Float} (ha : Defined a) {top : Float}
    (htop : Scalar.isPositive top = true) : Defined (a.map (clamp 0.0 top)) :=
  ha.map fun _ => isNaN_clamp isPositive_scales.1 (Double.isNaN_of_isPositive htop)

/-- The number that is read in front of a text is not undefined. -/
theorem isNaN_of_readNumber? {text rest : List Char} {x : Float}
    (h : readNumber? text = some (x, rest)) : x.isNaN = false := by
  have hvalue (negative : Bool) (significand : Nat) (exponent : Int) :
      (if negative then -Double.ofDecimal significand exponent
        else Double.ofDecimal significand exponent).isNaN = false := by
    split
    · exact Double.isNaN_neg (Double.isNaN_ofDecimal ..)
    · exact Double.isNaN_ofDecimal ..
  unfold readNumber? at h
  dsimp only at h
  split at h
  · obtain ⟨-, h⟩ := Option.ite_none_left_eq_some.1 h
    cases h
    exact hvalue ..
  · obtain ⟨-, h⟩ := Option.ite_none_left_eq_some.1 h
    cases h
    exact hvalue ..

/-- The number of a token is not undefined. -/
def Token.Defined : Token → Prop
  | .number value | .percentage value | .dimension value _ => value.isNaN = false
  | .word _ => True

/-- A token that is read holds no undefined number. -/
theorem defined_of_readToken? {text rest : List Char} {token : Token}
    (h : readToken? text = some (token, rest)) : token.Defined := by
  unfold readToken? at h
  dsimp only at h
  split at h
  · next hnumber =>
    cases h
    exact isNaN_of_readNumber? hnumber
  · next hnumber =>
    split at h <;> cases h <;> exact isNaN_of_readNumber? hnumber
  · obtain ⟨⟨word, left⟩, -, h⟩ := Option.map_eq_some_iff.1 h
    cases h
    trivial

/-! ## Scans -/

/-- Whatever a scan finds has a property. -/
def Gives {β : Type} (P : β → Prop) (scan : Scan β) : Prop :=
  ∀ text b rest, scan text = .ok (b, rest) → P b

namespace Gives

variable {β γ : Type} {P : β → Prop} {Q : γ → Prop}

/-- What a scan gives is what the scan after it may rely on. -/
theorem bind {scan : Scan β} {next : β → Scan γ} (hscan : Gives P scan)
    (h : ∀ b, P b → Gives Q (next b)) : Gives Q (scan >>= next) := by
  intro text c rest hresult
  obtain ⟨⟨b, left⟩, hb, hnext⟩ := Except.bind_eq_ok.1 hresult
  exact h b (hscan text b left hb) left c rest hnext

/-- Of what a scan gives, something is always known: nothing. -/
theorem anything (scan : Scan β) : Gives (fun _ => True) scan := fun _ _ _ _ => trivial

/-- What a scan finds does not matter for what comes after it. -/
theorem after {scan : Scan β} {next : β → Scan γ} (h : ∀ b, Gives Q (next b)) :
    Gives Q (scan >>= next) :=
  bind (anything scan) fun b _ => h b

/-- A scan that reads nothing gives what it is told to. -/
theorem pure {b : β} (h : P b) : Gives P (Pure.pure b) := by
  rintro text _ rest hscan
  cases hscan
  exact h

/-- A scan that refuses gives nothing, so that all of it has any property. -/
theorem throw (fault : ColorFault) : Gives P (MonadExcept.throw fault) := by
  intro text b rest hscan
  cases hscan

/-- A computation that is taken for a scan gives its results. -/
theorem lift {x : Except ColorFault β} (h : ∀ b, x = .ok b → P b) :
    Gives P (StateT.lift x : Scan β) := by
  intro text b rest hscan
  obtain ⟨b', hb', hscan⟩ := Except.bind_eq_ok.1 hscan
  cases hscan
  exact h b hb'

end Gives

/-- A scan of one token gives defined components if the conversion of the token does. -/
theorem gives_scanToken (refusal : ColorFault) {convert : Token → Except ColorFault (Option Float)}
    (h : ∀ token, token.Defined → ∀ component, convert token = .ok component →
      Defined component) : Gives Defined (scanToken refusal convert) := by
  refine .after fun text => ?_
  split
  · next token rest htoken =>
    exact .bind (.lift (h token (defined_of_readToken? htoken))) fun component hcomponent =>
      .after fun _ => .pure hcomponent
  · exact .throw _

/-- A component in either of two scales is defined. -/
theorem gives_scanComponent {scale percentScale : Float} (hscale : Scalar.isPositive scale = true)
    (hpercent : Scalar.isPositive percentScale = true) :
    Gives Defined (scanComponent scale percentScale) := by
  refine gives_scanToken _ fun token htoken component h => ?_
  split at h <;> cases h
  · exact defined_some (Double.isNaN_mul htoken hscale)
  · exact defined_some (Double.isNaN_mul htoken hpercent)
  · exact defined_none

/-- Every unit of angles is some positive number of degrees. -/
theorem isPositive_of_degreesPerUnit? {unit : String} {degrees : Float}
    (h : degreesPerUnit? unit = some degrees) : Scalar.isPositive degrees = true := by
  unfold degreesPerUnit? at h
  split at h <;> cases h <;> decide +kernel

/-- An angle is defined in whichever unit it is written. -/
theorem gives_scanAngle : Gives Defined scanAngle := by
  refine gives_scanToken _ fun token htoken component h => ?_
  split at h
  · cases h
    exact defined_some htoken
  · split at h <;> cases h
    next hdegrees =>
      exact defined_some (Double.isNaN_mul htoken (isPositive_of_degreesPerUnit? hdegrees))
  · cases h
    exact defined_none
  · cases h

/-- A component of which a hundred percent are one is defined. -/
theorem gives_fraction : Gives Defined (scanComponent 1.0 0.01) :=
  gives_scanComponent isPositive_scales.2.1 isPositive_scales.2.2.1

/-- A component that counts the same with and without a percent sign is defined. -/
theorem gives_percent : Gives Defined (scanComponent 1.0 1.0) :=
  gives_scanComponent isPositive_scales.2.1 isPositive_scales.2.1

/-- An opacity is defined, and so is that of a text without one. -/
theorem gives_scanOpacity (commas : Bool) : Gives Defined (scanOpacity commas) := by
  refine .after fun found => ?_
  split
  · exact .bind gives_fraction fun a ha => .pure (ha.clamp isPositive_scales.2.1)
  · exact .pure (defined_some (Double.isNaN_of_isPositive isPositive_scales.2.1))

/-! ## Colors -/

/-- The three components and the opacity. -/
def components (c : Color) : List (Option Float32) := [c.first, c.second, c.third, c.opacity]

/-- No component that is there is undefined. -/
def IsDefined (c : Color) : Prop := ∀ component ∈ c.components, ∀ x ∈ component, x.isNaN = false

/-- What is known of a color that is read from a text. -/
structure IsRead (c : Color) : Prop where
  proper : c.IsProper
  defined : c.IsDefined

/-- A color of defined doubles is one that a text can have. -/
theorem isRead_ofDoubles (space : ColorSpace) {writtenAs : ColorNotation}
    (hname : ∀ name, writtenAs ≠ .named name) {first second third opacity : Option Float}
    (h₁ : Defined first) (h₂ : Defined second) (h₃ : Defined third) (ho : Defined opacity) :
    (ofDoubles space writtenAs first second third opacity).IsRead := by
  have hsingle {a : Option Float} (ha : Defined a) :
      ∀ x ∈ a.map Single.ofDouble, x.isNaN = false := by
    intro x hx
    obtain ⟨y, hy, rfl⟩ := Option.mem_map.1 hx
    exact Single.isNaN_ofDouble (ha y hy)
  refine ⟨isProper_of_ne_named hname, ?_⟩
  simp only [IsDefined, components, List.forall_mem_cons]
  exact ⟨hsingle h₁, hsingle h₂, hsingle h₃, hsingle ho, nofun⟩

/-- A color of bytes has defined components, as it is made of whole numbers. -/
theorem isDefined_ofBytes (writtenAs : ColorNotation) (red green blue opacity : Nat) :
    (ofBytes writtenAs red green blue opacity).IsDefined := by
  have hbyte (byte : Nat) : ∀ x ∈ some (ofByte byte), x.isNaN = false := by
    rintro _ ⟨⟩
    exact Double.isNaN_unpack_pack .binary32 (Double.isNaN_unpacked_mul .binary32
      (Double.isNaN_unpack_pack .binary32 (Double.isNaN_normalize ..)))
  simp only [IsDefined, components, List.forall_mem_cons]
  exact ⟨hbyte _, hbyte _, hbyte _, hbyte _, nofun⟩

/-- A color of bytes is one that a text can have. -/
theorem isRead_ofBytes {writtenAs : ColorNotation} (hname : ∀ name, writtenAs ≠ .named name)
    (red green blue opacity : Nat) : (ofBytes writtenAs red green blue opacity).IsRead :=
  ⟨isProper_of_ne_named hname, isDefined_ofBytes _ _ _ _ _⟩

/-- The arguments of `rgb` give colors that a text can have. -/
theorem gives_scanRgb : Gives IsRead scanRgb := by
  have hchannel : Gives Defined
      (do return (← scanComponent (1.0 / 255.0) 0.01).map (clamp 0.0 1.0)) :=
    .bind (gives_scanComponent isPositive_scales.2.2.2 isPositive_scales.2.2.1) fun a ha =>
      .pure (ha.clamp isPositive_scales.2.1)
  exact .bind hchannel fun red hred => .after fun commas => .bind hchannel fun green hgreen =>
    .after fun _ => .bind hchannel fun blue hblue => .bind (gives_scanOpacity _) fun o ho =>
      .pure (isRead_ofDoubles _ (fun _ => by nofun) hred hgreen hblue ho)

/-- The greatest lightness of a space and what a percentage of the other components counts. -/
def AreScales (top percent : Float) : Prop :=
  Scalar.isPositive top = true ∧ Scalar.isPositive (0.01 * top) = true ∧
    Scalar.isPositive percent = true

/-- The scales of both families of perceptual colors are positive. -/
theorem areScales : AreScales 100.0 1.25 ∧ AreScales 1.0 0.004 := by
  unfold AreScales
  decide +kernel

/-- The arguments of `lab` and `oklab` give colors that a text can have. -/
theorem gives_scanLab (space : ColorSpace) {top percent : Float} (h : AreScales top percent) :
    Gives IsRead (scanLab space top percent) := by
  have hopponent : Gives Defined (scanComponent 1.0 percent) :=
    gives_scanComponent isPositive_scales.2.1 h.2.2
  exact .bind (gives_scanComponent isPositive_scales.2.1 h.2.1) fun lightness hlightness =>
    .bind hopponent fun a ha => .bind hopponent fun b hb => .bind (gives_scanOpacity _) fun o ho =>
      .pure (isRead_ofDoubles _ (fun _ => by nofun) (hlightness.clamp h.1) ha hb ho)

/-- The arguments of `lch` and `oklch` give colors that a text can have. -/
theorem gives_scanLch (space : ColorSpace) {top percent : Float} (h : AreScales top percent) :
    Gives IsRead (scanLch space top percent) :=
  .bind (gives_scanComponent isPositive_scales.2.1 h.2.1) fun lightness hlightness =>
    .bind (gives_scanComponent isPositive_scales.2.1 h.2.2) fun chroma hchroma =>
      .bind gives_scanAngle fun hue hhue => .bind (gives_scanOpacity _) fun o ho =>
        .pure (isRead_ofDoubles _ (fun _ => by nofun) (hlightness.clamp h.1)
          (hchroma.map fun _ => isNaN_atLeastZero) hhue ho)

/-- The arguments of `hsl` give colors that a text can have. -/
theorem gives_scanHsl : Gives IsRead scanHsl :=
  .bind gives_scanAngle fun hue hhue => .after fun _ => .after fun commas =>
    .bind gives_percent fun saturation hsaturation => .after fun _ =>
      .bind gives_percent fun lightness hlightness => .bind (gives_scanOpacity _) fun o ho =>
        .pure (isRead_ofDoubles _ (fun _ => by nofun) hhue
          (hsaturation.map fun _ => isNaN_atLeastZero) hlightness ho)

/-- The arguments of `hwb` give colors that a text can have. -/
theorem gives_scanHwb : Gives IsRead scanHwb :=
  .bind gives_scanAngle fun hue hhue => .bind gives_percent fun whiteness hwhiteness =>
    .bind gives_percent fun blackness hblackness => .bind (gives_scanOpacity _) fun o ho =>
      .pure (isRead_ofDoubles _ (fun _ => by nofun) hhue hwhiteness hblackness ho)

/-- The arguments of `color` give colors that a text can have, in every space that they may name. -/
theorem gives_scanGeneric : Gives IsRead scanGeneric := by
  refine .after fun text => ?_
  split
  · split
    · exact .after fun _ => .bind gives_fraction fun a ha => .bind gives_fraction fun b hb =>
        .bind gives_fraction fun c hc => .bind (gives_scanOpacity _) fun o ho =>
          .pure (isRead_ofDoubles _ (fun _ => by nofun) ha hb hc ho)
    · exact .throw _
  · exact .throw _

/-- The digits behind a hash give colors that a text can have. -/
theorem gives_scanHex : Gives IsRead scanHex := by
  refine .after fun _ => .after fun _ => ?_
  split
  · exact .pure (isRead_ofBytes (fun _ => by nofun) ..)
  · exact .pure (isRead_ofBytes (fun _ => by nofun) ..)
  · exact .pure (isRead_ofBytes (fun _ => by nofun) ..)
  · exact .pure (isRead_ofBytes (fun _ => by nofun) ..)
  · exact .throw _

/-- The arguments of every function that is known give colors that a text can have. -/
theorem gives_of_argumentsOf? {name : String} {scan : Scan Color}
    (h : argumentsOf? name = some scan) : Gives IsRead scan := by
  unfold argumentsOf? at h
  split at h <;> cases h
  · exact gives_scanRgb
  · exact gives_scanRgb
  · exact gives_scanLab _ areScales.1
  · exact gives_scanLch _ areScales.1
  · exact gives_scanLab _ areScales.2
  · exact gives_scanLch _ areScales.2
  · exact gives_scanHsl
  · exact gives_scanHsl
  · exact gives_scanHwb
  · exact gives_scanGeneric

/-- A word that is no function is taken for a color only if it is the name of one. -/
theorem gives_scanColor : Gives IsRead scanColor := by
  refine .after fun text => ?_
  split
  · exact .after fun _ => gives_scanHex
  · split
    · refine .after fun _ => ?_
      dsimp only
      split
      · next harguments =>
        exact .after fun _ => .bind (gives_of_argumentsOf? harguments) fun color hcolor =>
          .after fun _ => .pure hcolor
      · split
        · next hbytes => exact .pure ⟨isProper_ofNamed hbytes, isDefined_ofBytes _ _ _ _ _⟩
        · exact .throw _
    · exact .throw _

/-- Colors that are read have names of colors only, and no component of them is undefined. -/
theorem isRead_of_parse {text : String} {c : Color} (h : parse text = .ok c) : c.IsRead := by
  obtain ⟨⟨color, rest⟩, hscan, h⟩ := Except.bind_eq_ok.1 h
  have hread := gives_scanColor _ _ _ hscan
  dsimp only at h
  split at h
  · cases h
    exact hread
  · cases h

end NeighborGraph.Color
