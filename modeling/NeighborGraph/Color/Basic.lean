/-!
Colors as style sheets know them.

A color has three components in a color space and an opacity. A component may be missing: it then
counts as zero in a drawing and is written `none`. A color also remembers how it was written,
because that decides how it is written again: a name stays that name, and the functions of the
older color spaces keep their comma form.
-/

namespace NeighborGraph

/-- The color spaces of style sheets. -/
inductive ColorSpace where
  | srgb
  | linearSrgb
  | lab
  | lch
  | hsl
  | hwb
  | oklab
  | oklch
  | displayP3
  | a98Rgb
  | prophotoRgb
  | rec2020
  | xyzD50
  | xyzD65
  deriving DecidableEq

/-- How a color was written. -/
inductive ColorNotation where
  /-- As a generic color function that names its space, or by a change of opacity. -/
  | generic
  /-- By the function of its own color space, or in hexadecimal digits. -/
  | spaceFunction
  /-- By a color name. -/
  | named (name : String)
  deriving DecidableEq

/-- A color. -/
structure Color where
  /-- The space that the components belong to. -/
  space : ColorSpace
  /-- How the color was written. -/
  writtenAs : ColorNotation
  /-- The first component, if it is not missing. -/
  first : Option Float32
  /-- The second component, if it is not missing. -/
  second : Option Float32
  /-- The third component, if it is not missing. -/
  third : Option Float32
  /-- The opacity, if it is not missing. -/
  opacity : Option Float32

namespace Color

/-- The opacity as a drawing uses it: zero for a missing one. -/
def alpha (c : Color) : Float32 := c.opacity.getD 0

/-- The color with another opacity. A missing opacity stays missing. What is changed in this way is
no longer the color of a name, nor one written by a function of its space. -/
def withAlpha (c : Color) (alpha : Float32) : Color :=
  match c.opacity with
  | none => c
  | some _ => { c with opacity := some alpha, writtenAs := .generic }

/-- Components are equal if both are missing or both are there and equal as numbers: an undefined
number equals nothing, and zeros of both signs are equal. -/
def sameComponent : Option Float32 → Option Float32 → Bool
  | none, none => true
  | some a, some b => a == b
  | _, _ => false

/-- Same space, same way of writing, and equal components. -/
def same (a b : Color) : Bool :=
  decide (a.space = b.space) && decide (a.writtenAs = b.writtenAs) &&
    sameComponent a.first b.first && sameComponent a.second b.second &&
    sameComponent a.third b.third && sameComponent a.opacity b.opacity

instance : BEq Color := ⟨same⟩

end Color

end NeighborGraph
