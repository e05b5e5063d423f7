import NeighborGraph.Color.Basic
import NeighborGraph.Color.Names
import NeighborGraph.Decimal.Reader
import NeighborGraph.Text.Blank
import NeighborGraph.Text.HexDigit

/-!
Reading colors from style-sheet text.

A color is a name, hexadecimal digits after `#`, or a function with components: numbers,
percentages, angles or the word `none`. Between components stand blanks and comments. Components
are read as doubles, brought into the range of their kind and then narrowed to singles.
-/

namespace NeighborGraph

/-- Why a text is no color. -/
inductive ColorFault where
  | unknownAngleUnit
  | unknownAngle
  | unknownComponent
  | unknownName
  | unknownSpace
  | unknownForm
  | argumentsExpected
  | closingExpected
  | spaceExpected
  | commaExpected
  | endExpected
  | wrongDigitCount
  deriving DecidableEq

namespace ColorFault

/-- The reason in words. -/
def message : ColorFault → String
  | unknownAngleUnit => "unknown angle dimension"
  | unknownAngle => "unknown angle"
  | unknownComponent => "unknown color component"
  | unknownName => "unknown color identifier"
  | unknownSpace => "unknown color space"
  | unknownForm => "unknown color syntax"
  | argumentsExpected => "expected arguments"
  | closingExpected => "expected closing parenthesis"
  | spaceExpected => "expected color space identifier"
  | commaExpected => "expected comma"
  | endExpected => "expected end of string"
  | wrongDigitCount => "wrong number of hex digits"

end ColorFault

open Float.Model in
/-- The single nearest to a double; of two singles that are as near, the one with an even last
bit. -/
def Single.ofDouble (a : Float) : Float32 :=
  .ofModel (.pack (match a.toModel.unpack with
    | .finite sign mantissa exponent _ => UnpackedFloat.round .binary32 sign mantissa exponent
    | special => special))

namespace Color

/-- What is left after the next `*/`, if there is one. -/
def afterComment? : List Char → Option (List Char)
  | '*' :: '/' :: rest => some rest
  | _ :: rest => afterComment? rest
  | [] => none

/-- A comment takes up some of the text. -/
theorem afterComment?_length {text rest : List Char} (h : afterComment? text = some rest) :
    rest.length < text.length := by
  fun_induction afterComment? text with
  | case1 r => obtain rfl := Option.some.inj h; simp only [List.length_cons]; omega
  | case2 c r _ ih => have := ih h; simp only [List.length_cons]; omega
  | case3 => cases h

/-- The four characters that separate components. -/
def isSeparator (c : Char) : Bool := c == ' ' || c == '\t' || c == '\r' || c == '\n'

/-- The text after blanks and closed comments. -/
def skipBlanks (text : List Char) : List Char :=
  match text with
  | '/' :: '*' :: rest =>
    match _h : afterComment? rest with
    | some tail => skipBlanks tail
    | none => text
  | c :: rest => if isSeparator c then skipBlanks rest else text
  | [] => []
termination_by text.length
decreasing_by
  · have := afterComment?_length _h; simp only [List.length_cons]; omega
  · simp only [List.length_cons]; omega

/-- The text after closed comments. -/
def skipComments (text : List Char) : List Char :=
  match text with
  | '/' :: '*' :: rest =>
    match _h : afterComment? rest with
    | some tail => skipComments tail
    | none => text
  | _ => text
termination_by text.length
decreasing_by have := afterComment?_length _h; simp only [List.length_cons]; omega

/-- A number in front of a text, and the text after it. A point belongs to the number only if a
digit follows it, and so does the letter of an exponent. -/
def readNumber? (text : List Char) : Option (Float × List Char) :=
  let (negative, unsigned) := splitSign text
  let (whole, afterWhole) := spanDigits unsigned
  let (fraction, afterFraction) := match afterWhole with
    | '.' :: rest =>
      match spanDigits rest with
      | ([], _) => ([], afterWhole)
      | split => split
    | _ => ([], afterWhole)
  if whole.isEmpty && fraction.isEmpty then none
  else
    let (exponent, rest) : Int × List Char := match afterFraction with
      | c :: tail =>
        if c == 'e' || c == 'E' then
          let (below, unsignedTail) := splitSign tail
          match spanDigits unsignedTail with
          | ([], _) => (0, afterFraction)
          | (digits, rest) =>
            let n : Int := readDigits 0 digits
            (if below then -n else n, rest)
        else (0, afterFraction)
      | [] => (0, [])
    let value := Double.ofDecimal (readDigits (readDigits 0 whole) fraction)
      (exponent - fraction.length)
    some (if negative then -value else value, rest)

/-- The character can stand in a word, at its start if `digits` does not hold. -/
def isWordChar (digits : Bool) (c : Char) : Bool :=
  c.isAlpha || c == '_' || c == '-' || (digits && c.isDigit)

/-- A word in front of a text, and the text after it. A digit may stand after a letter, or after
two characters; two dashes start no word. -/
def readWord? : List Char → Option (List Char × List Char)
  | '-' :: '-' :: _ => none
  | '-' :: c :: rest =>
    if isWordChar false c then
      some ('-' :: c :: rest.takeWhile (isWordChar true), rest.dropWhile (isWordChar true))
    else none
  | c :: rest =>
    if c != '-' && isWordChar false c then
      some (c :: rest.takeWhile (isWordChar true), rest.dropWhile (isWordChar true))
    else none
  | [] => none

/-- The word in small letters. -/
def wordText (word : List Char) : String := String.ofList (word.map Char.toLower)

/-- A value between separators. -/
inductive Token where
  | number (value : Float)
  | percentage (value : Float)
  | dimension (value : Float) (unit : String)
  | word (text : String)

/-- The value in front of a text, blanks skipped. -/
def readToken? (text : List Char) : Option (Token × List Char) :=
  let text := skipBlanks text
  match readNumber? text with
  | some (value, '%' :: rest) => some (.percentage value, rest)
  | some (value, rest) =>
    match readWord? rest with
    | some (unit, rest) => some (.dimension value (wordText unit), rest)
    | none => some (.number value, rest)
  | none => (readWord? text).map fun (word, rest) => (.word (wordText word), rest)

/-- A reader of a part of a color's text. -/
abbrev Scan := StateT (List Char) (Except ColorFault)

/-- The next token, which `convert` turns into a component or refuses; `refusal` if none comes. -/
def scanToken (refusal : ColorFault) (convert : Token → Except ColorFault (Option Float)) :
    Scan (Option Float) := do
  match readToken? (← get) with
  | some (token, rest) =>
    let component ← convert token
    set rest
    return component
  | none => throw refusal

/-- A component that is a number or a percentage, each with its scale, or missing. -/
def scanComponent (scale percentScale : Float) : Scan (Option Float) :=
  scanToken .unknownComponent fun
    | .number value => .ok (some (value * scale))
    | .percentage value => .ok (some (value * percentScale))
    | .word "none" => .ok none
    | _ => .error .unknownComponent

/-- How many degrees a unit of angles has. -/
def degreesPerUnit? : String → Option Float
  | "deg" => some 1.0
  | "rad" => some (180.0 / 3.14159265358979323846)
  | "grad" => some 0.9
  | "turn" => some 360.0
  | _ => none

/-- A hue in degrees, or missing. -/
def scanAngle : Scan (Option Float) :=
  scanToken .unknownAngle fun
    | .number value => .ok (some value)
    | .dimension value unit =>
      match degreesPerUnit? unit with
      | some degrees => .ok (some (value * degrees))
      | none => .error .unknownAngleUnit
    | .word "none" => .ok none
    | _ => .error .unknownAngle

/-- Whether the character comes next; if so it is read. The slash of a comment that is not closed is
none. -/
def scanChar (mark : Char) : Scan Bool := do
  match ← get with
  | c :: rest =>
    let opensComment := c == '/' && rest.head? == some '*'
    if c == mark && !opensComment then
      set rest
      return true
    else return false
  | [] => return false

/-- Whether the character comes next after blanks; if so it is read. -/
def scanMark (mark : Char) : Scan Bool := do
  modify skipBlanks
  scanChar mark

/-- The comma that has to come next if the first components were parted by one. -/
def scanCommaIf (commas : Bool) : Scan Unit := do
  if commas then
    if !(← scanMark ',') then throw .commaExpected

/-- The bracket that opens the arguments, right after the name of the function. -/
def scanOpening : Scan Unit := do
  match ← get with
  | '(' :: rest => set rest
  | _ => throw .argumentsExpected

/-- The bracket that closes the arguments. -/
def scanClosing : Scan Unit := do
  if !(← scanMark ')') then throw .closingExpected

/-- The value moved into the range from `low` to `high`. -/
def clamp (low high value : Float) : Float :=
  if value < low then low else if high < value then high else value

/-- The value, or zero if it is not above zero. -/
def atLeastZero (value : Float) : Float := if 0.0 < value then value else 0.0

/-- The opacity after the components: opaque if none is written. -/
def scanOpacity (commas : Bool) : Scan (Option Float) := do
  if ← scanMark (if commas then ',' else '/') then
    return (← scanComponent 1.0 0.01).map (clamp 0.0 1.0)
  else return some 1.0

/-- A color of doubles narrowed to singles. -/
def ofDoubles (space : ColorSpace) (writtenAs : ColorNotation)
    (first second third opacity : Option Float) : Color :=
  ⟨space, writtenAs, first.map Single.ofDouble, second.map Single.ofDouble,
    third.map Single.ofDouble, opacity.map Single.ofDouble⟩

/-- Red, green and blue up to 255 or in percent, with or without commas. -/
def scanRgb : Scan Color := do
  let channel := do return (← scanComponent (1.0 / 255.0) 0.01).map (clamp 0.0 1.0)
  let red ← channel
  let commas ← scanMark ','
  let green ← channel
  scanCommaIf commas
  let blue ← channel
  let opacity ← scanOpacity commas
  return ofDoubles .srgb .spaceFunction red green blue opacity

/-- A lightness of at most `top` and two opponent components, of which one percent is `percent`. -/
def scanLab (space : ColorSpace) (top percent : Float) : Scan Color := do
  let lightness := (← scanComponent 1.0 (0.01 * top)).map (clamp 0.0 top)
  let a ← scanComponent 1.0 percent
  let b ← scanComponent 1.0 percent
  let opacity ← scanOpacity false
  return ofDoubles space .spaceFunction lightness a b opacity

/-- A lightness of at most `top`, a chroma of which one percent is `percent`, and a hue. -/
def scanLch (space : ColorSpace) (top percent : Float) : Scan Color := do
  let lightness := (← scanComponent 1.0 (0.01 * top)).map (clamp 0.0 top)
  let chroma := (← scanComponent 1.0 percent).map atLeastZero
  let hue ← scanAngle
  let opacity ← scanOpacity false
  return ofDoubles space .spaceFunction lightness chroma hue opacity

/-- Hue, saturation and lightness, with or without commas. Nothing but comments may stand before the
first comma. -/
def scanHsl : Scan Color := do
  let hue ← scanAngle
  modify skipComments
  let commas ← scanChar ','
  let saturation := (← scanComponent 1.0 1.0).map atLeastZero
  scanCommaIf commas
  let lightness ← scanComponent 1.0 1.0
  let opacity ← scanOpacity commas
  return ofDoubles .hsl .spaceFunction hue saturation lightness opacity

/-- Hue, whiteness and blackness. -/
def scanHwb : Scan Color := do
  let hue ← scanAngle
  let whiteness ← scanComponent 1.0 1.0
  let blackness ← scanComponent 1.0 1.0
  let opacity ← scanOpacity false
  return ofDoubles .hwb .spaceFunction hue whiteness blackness opacity

/-- The space that the generic color function knows by a word. -/
def spaceOfWord? : String → Option ColorSpace
  | "srgb" => some .srgb
  | "srgb-linear" => some .linearSrgb
  | "display-p3" => some .displayP3
  | "a98-rgb" => some .a98Rgb
  | "prophoto-rgb" => some .prophotoRgb
  | "rec2020" => some .rec2020
  | "xyz-d50" => some .xyzD50
  | "xyz-d65" => some .xyzD65
  | "xyz" => some .xyzD65
  | _ => none

/-- A word for a space and three components. -/
def scanGeneric : Scan Color := do
  let some (word, rest) := readWord? (skipBlanks (← get)) | throw .spaceExpected
  let some space := spaceOfWord? (wordText word) | throw .unknownSpace
  set rest
  let first ← scanComponent 1.0 0.01
  let second ← scanComponent 1.0 0.01
  let third ← scanComponent 1.0 0.01
  let opacity ← scanOpacity false
  return ofDoubles space .generic first second third opacity

/-- The arguments of the color function with the given name, if there is such a function. -/
def argumentsOf? : String → Option (Scan Color)
  | "rgb" => some scanRgb
  | "rgba" => some scanRgb
  | "lab" => some (scanLab .lab 100.0 1.25)
  | "lch" => some (scanLch .lch 100.0 1.25)
  | "oklab" => some (scanLab .oklab 1.0 0.004)
  | "oklch" => some (scanLch .oklch 1.0 0.004)
  | "hsl" => some scanHsl
  | "hsla" => some scanHsl
  | "hwb" => some scanHwb
  | "color" => some scanGeneric
  | _ => none

/-- A byte as a component from zero to one. -/
def ofByte (byte : Nat) : Float32 := byte.toUInt8.toFloat32 * (1.0 / 255.0)

/-- The color with the given bytes for red, green, blue and opacity. -/
def ofBytes (writtenAs : ColorNotation) (red green blue opacity : Nat) : Color :=
  ⟨.srgb, writtenAs, some (ofByte red), some (ofByte green), some (ofByte blue),
    some (ofByte opacity)⟩

/-- The color of a name with its bytes. -/
def ofNamed (name : String) (bytes : Nat) : Color :=
  ofBytes (.named name) (bytes / 0x1000000 % 0x100) (bytes / 0x10000 % 0x100)
    (bytes / 0x100 % 0x100) (bytes % 0x100)

/-- The values of the hexadecimal digits in front of a text, at most `limit`, and the rest. -/
def spanHex : Nat → List Char → List Nat × List Char
  | limit + 1, c :: rest =>
    match hexDigitValue? c with
    | some value => let (values, tail) := spanHex limit rest; (value :: values, tail)
    | none => ([], c :: rest)
  | _, text => ([], text)

/-- Three, four, six or eight hexadecimal digits: one or two for each channel. -/
def scanHex : Scan Color := do
  let (digits, rest) := spanHex 8 (← get)
  set rest
  match digits with
  | [r, g, b] => return ofBytes .spaceFunction (17 * r) (17 * g) (17 * b) 255
  | [r, g, b, a] => return ofBytes .spaceFunction (17 * r) (17 * g) (17 * b) (17 * a)
  | [r, r', g, g', b, b'] =>
    return ofBytes .spaceFunction (16 * r + r') (16 * g + g') (16 * b + b') 255
  | [r, r', g, g', b, b', a, a'] =>
    return ofBytes .spaceFunction (16 * r + r') (16 * g + g') (16 * b + b') (16 * a + a')
  | _ => throw .wrongDigitCount

/-- A color in front of a text. -/
def scanColor : Scan Color := do
  match ← get with
  | '#' :: rest =>
    set rest
    scanHex
  | text =>
    let some (word, rest) := readWord? text | throw .unknownForm
    set rest
    let name := wordText word
    match argumentsOf? name with
    | some arguments =>
      scanOpening
      let color ← arguments
      scanClosing
      return color
    | none =>
      let some bytes := bytesOfName? name | throw .unknownName
      return ofNamed name bytes

/-- The color that a text writes, blanks at its ends apart. -/
def parse (text : String) : Except ColorFault Color := do
  let (color, rest) ← scanColor.run (trimBlank text.toList)
  if rest.isEmpty then return color else throw .endExpected

/-- The message about a text that is no color. -/
def faultMessage (text : String) (fault : ColorFault) : String :=
  "invalid color `" ++ text ++ "`: " ++ fault.message

/-- Black: the color of text and outlines unless another one is set. -/
def black : Color := ofNamed "black" 0x000000ff

/-- Blue: the color of node boxes unless another one is set. -/
def blue : Color := ofNamed "blue" 0x0000ffff

/-- The gray of links unless another color is set. -/
def linkGray : Color := ofBytes .spaceFunction 0x99 0x99 0x99 0xff

end Color

end NeighborGraph
