import NeighborGraph.Color.Reader
import NeighborGraph.Decimal.Text

/-!
Writing colors.

A named color is written by its name. Colors of the older functions are written with commas and, if
they were so written themselves, as red, green and blue up to 255; the others by the function of
their space with blanks between the components.
-/

namespace NeighborGraph.Color

/-- The smaller of two singles; an undefined one yields to the other. -/
def lesserSingle (a b : Float32) : Float32 := if b < a || a.isNaN then b else a

/-- The single moved into the range from minus one to one. -/
def clampUnit (a : Float32) : Float32 := if a < -1.0 then -1.0 else if 1.0 < a then 1.0 else a

/-- The channel of a hue, saturation and lightness (both in percent) that `offset` selects: 0 for
red, 8 for green and 4 for blue. -/
def hslChannel (hue saturation lightness offset : Float32) : Float32 :=
  let sat := saturation * 0.01
  let light := lightness * 0.01
  let a := sat * lesserSingle light (1.0 - light)
  let x := offset + hue * (1.0 / 30.0)
  let k := x - 12.0 * (x * (1.0 / 12.0)).floor
  light - a * clampUnit (lesserSingle (k - 3.0) (9.0 - k))

/-- The channel of a hue, whiteness and blackness (both in percent) that `offset` selects. White
and black that fill the color make it gray. -/
def hwbChannel (hue whiteness blackness offset : Float32) : Float32 :=
  let white := whiteness * 0.01
  let black := blackness * 0.01
  if 1.0 ≤ white + black then white / (white + black)
  else white + hslChannel hue 100.0 50.0 offset * (1.0 - white - black)

/-- The color in red, green and blue, if its space is one of the two that only rename them. -/
def toSrgb (c : Color) : Color :=
  let convert (channel : Float32 → Float32 → Float32 → Float32 → Float32) : Color :=
    let component (offset : Float32) :=
      some (channel (c.first.getD 0) (c.second.getD 0) (c.third.getD 0) offset)
    ⟨.srgb, c.writtenAs, component 0.0, component 8.0, component 4.0, c.opacity⟩
  match c.space with
  | .hsl => convert hslChannel
  | .hwb => convert hwbChannel
  | _ => c

/-- A component times a scale, or the word for a missing one. -/
def componentText (scale : Float32) : Option Float32 → String
  | none => "none"
  | some a => Single.plainText (a * scale)

/-- The opacity is written only if it is below one; a missing one counts as zero here. -/
def showsOpacity (c : Color) : Bool := c.alpha < 1.0

/-- The form with commas, the name of the function extended if the opacity is written. -/
def commaText (c : Color) (name : String) (scale : Float32) : String :=
  name ++ (if c.showsOpacity then "a" else "") ++ "(" ++ componentText scale c.first ++ ", " ++
    componentText scale c.second ++ ", " ++ componentText scale c.third ++
    (if c.showsOpacity then ", " ++ componentText 1.0 c.opacity else "") ++ ")"

/-- The components with blanks between them, and the closing bracket. -/
def blankText (c : Color) : String :=
  componentText 1.0 c.first ++ " " ++ componentText 1.0 c.second ++ " " ++
    componentText 1.0 c.third ++
    (if c.showsOpacity then " / " ++ componentText 1.0 c.opacity else "") ++ ")"

/-- The form with blanks between the components. -/
def functionText (c : Color) (name : String) : String := name ++ "(" ++ c.blankText

/-- The generic form, which names the space first. -/
def genericText (c : Color) (name : String) : String := "color(" ++ name ++ " " ++ c.blankText

/-- The text by the color's space when no name and no older function applies. -/
def spaceText (c : Color) : String :=
  match c.space with
  | .srgb => c.genericText "srgb"
  | .linearSrgb => c.genericText "srgb-linear"
  | .displayP3 => c.genericText "display-p3"
  | .a98Rgb => c.genericText "a98-rgb"
  | .prophotoRgb => c.genericText "prophoto-rgb"
  | .rec2020 => c.genericText "rec2020"
  | .xyzD50 => c.genericText "xyz-d50"
  | .xyzD65 => c.genericText "xyz-d65"
  | .hsl => c.commaText "hsl" 1.0
  | .hwb => c.functionText "hwb"
  | .lab => c.functionText "lab"
  | .lch => c.functionText "lch"
  | .oklab => c.functionText "oklab"
  | .oklch => c.functionText "oklch"

/-- The text of a color. -/
def text (c : Color) : String :=
  match c.writtenAs, c.space with
  | .named name, _ => name
  | .spaceFunction, .srgb => c.commaText "rgb" 255.0
  | .spaceFunction, .hsl => c.toSrgb.commaText "rgb" 255.0
  | .spaceFunction, .hwb => c.toSrgb.commaText "rgb" 255.0
  | _, _ => c.spaceText

end NeighborGraph.Color
