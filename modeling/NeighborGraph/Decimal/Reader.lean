/-!
Reading decimal numbers.

`Double.read?` accepts a sign, digits with or without a point, and an exponent, or one of the
words for infinity and for an undefined number; the answer is the double nearest to the number
written.
-/

namespace NeighborGraph

/-- The number that a list of decimal digits writes, after the digits of `start`. -/
def readDigits (start : Nat) (digits : List Char) : Nat :=
  digits.foldl (fun n c => 10 * n + (c.toNat - '0'.toNat)) start

/-- Two to the power 64: the first number that does not fit into 64 bits. -/
def wordLimit : Nat := 0x10000000000000000

/-- The text up to the first character that is not a digit, and the text from there on. -/
def spanDigits (text : List Char) : List Char × List Char :=
  (text.takeWhile Char.isDigit, text.dropWhile Char.isDigit)

/-- A sign in front, if there is one: whether it is a minus, and the text after it. -/
def splitSign : List Char → Bool × List Char
  | '-' :: rest => (true, rest)
  | '+' :: rest => (false, rest)
  | text => (false, text)

/-- An exponent that fills the whole text: empty for zero, else a letter, a sign and digits. -/
def readExponent? : List Char → Option Int
  | [] => some 0
  | c :: rest =>
    if c == 'e' || c == 'E' then
      let (negative, digits) := splitSign rest
      if digits.isEmpty || !digits.all Char.isDigit then none
      else
        let n : Int := readDigits 0 digits
        some (if negative then -n else n)
    else none

namespace Double

/-- The double nearest to `significand * 10 ^ exponent`. Of numbers far beyond the range of a double
no power of ten is computed: they have more than 400 digits in front of the point, or more than 400
zeros behind it. -/
def ofDecimal (significand : Nat) (exponent : Int) : Float :=
  let size : Int := exponent + (Nat.toDigits 10 significand).length
  if significand = 0 ∨ size < -400 then 0
  else if 400 < size then 1.0 / 0.0
  else Float.ofScientific significand (exponent < 0) exponent.natAbs

/-- The magnitude that digits with or without a point, and perhaps an exponent, write. -/
def readMagnitude? (text : List Char) : Option Float :=
  let (whole, afterWhole) := spanDigits text
  let (fraction, tail) := match afterWhole with
    | '.' :: rest => spanDigits rest
    | rest => ([], rest)
  if whole.isEmpty && fraction.isEmpty then none
  else
    (readExponent? tail).map fun exponent =>
      ofDecimal (readDigits (readDigits 0 whole) fraction) (exponent - fraction.length)

/-- The double that a text writes, if it writes one. -/
def read? (text : String) : Option Float :=
  let (negative, magnitude) := splitSign text.toList
  let value := match (String.ofList magnitude).toLower with
    | "inf" => some (1.0 / 0.0)
    | "infinity" => some (1.0 / 0.0)
    | "nan" => some (0.0 / 0.0)
    | _ => readMagnitude? magnitude
  value.map fun a => if negative then -a else a

end Double

end NeighborGraph
