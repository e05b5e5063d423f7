import NeighborGraph.Decimal.Reader
import NeighborGraph.Toml.Value
import NeighborGraph.Text.HexDigit

/-!
Reading the strings, numbers and words of TOML.

A reader takes the text and gives a value with the text after it, or nothing if the text is
malformed. The shape of a number is settled here; one that has no value keeps its place in the
document as `Value.valueless`.
-/

namespace NeighborGraph.Toml

/-- A reader of something in front of a text. -/
abbrev Reader (α : Type) := List Char → Option (α × List Char)

/-- The character may stand in strings and comments: a tab, or any character that is no control
character. -/
def isPlain (c : Char) : Bool := c == '\t' || (32 ≤ c.toNat && c.toNat ≠ 127)

/-! ### Strings -/

/-- The character with the number that the next `count` hexadecimal digits write. -/
def readCode (count : Nat) : Reader Char := fun text => do
  let digits := text.take count
  let values ← digits.mapM hexDigitValue?
  let code := values.foldl (fun n d => 16 * n + d) 0
  if digits.length = count ∧ code.isValidChar then return (Char.ofNat code, text.drop count)
  else none

/-- The character that stands behind a backslash for another one. -/
def escaped? : Char → Option Char
  | 'b' => some '\x08'
  | 't' => some '\t'
  | 'n' => some '\n'
  | 'f' => some '\x0c'
  | 'r' => some '\r'
  | 'e' => some '\x1b'
  | '"' => some '"'
  | '\\' => some '\\'
  | _ => none

/-- What follows a backslash. -/
def readEscape : Reader Char
  | 'x' :: rest => readCode 2 rest
  | 'u' :: rest => readCode 4 rest
  | 'U' :: rest => readCode 8 rest
  | c :: rest => (escaped? c).map (·, rest)
  | [] => none

/-- A string between double quotes, whose opening quote has been read; `start` holds the characters
before, last first. Each step takes a character, so `fuel` need not exceed the length of the
text. -/
def readBasic : Nat → List Char → Reader String
  | 0, _, _ => none
  | fuel + 1, start, text =>
    match text with
    | '"' :: rest => some (String.ofList start.reverse, rest)
    | '\\' :: rest => do
      let (c, rest) ← readEscape rest
      readBasic fuel (c :: start) rest
    | c :: rest => if isPlain c then readBasic fuel (c :: start) rest else none
    | [] => none

/-- A string between single quotes, whose opening quote has been read. Nothing is escaped. -/
def readLiteral (text : List Char) : Option (String × List Char) :=
  let inside := text.takeWhile fun c => isPlain c && c ≠ '\x27'
  match text.drop inside.length with
  | '\x27' :: rest => some (String.ofList inside, rest)
  | _ => none

/-- A string of either kind. -/
def readString : Reader String
  | '"' :: rest => readBasic (rest.length + 1) [] rest
  | '\x27' :: rest => readLiteral rest
  | _ => none

/-! ### Numbers and words -/

/-- A text without its underscores. An underscore needs a hexadecimal digit on either side. -/
def joinDigits? : List Char → Option (List Char)
  | [] => none
  | '_' :: _ => none
  | [c] => some [c]
  | c :: '_' :: rest =>
    if (hexDigitValue? c).isSome && (rest.head?.bind hexDigitValue?).isSome then
      (joinDigits? rest).map (c :: ·)
    else none
  | c :: rest => (joinDigits? rest).map (c :: ·)

/-- The number that digits of a base write, with underscores between them. -/
def digitsIn? (base : Nat) (digits : List Char) : Option Nat := do
  let values ← (← joinDigits? digits).mapM hexDigitValue?
  if values.all (· < base) then return values.foldl (fun n d => base * n + d) 0 else none

/-- Decimal digits without the underscores between them. -/
def decimalDigits? (text : List Char) : Option (List Char) :=
  (joinDigits? text).filter (·.all Char.isDigit)

/-- Decimal digits without superfluous zeros in front. -/
def wholeDigits? (text : List Char) : Option (List Char) :=
  (decimalDigits? text).filter fun digits => digits.length = 1 || digits.head? ≠ some '0'

/-- An exponent behind its letter. -/
def exponent? (text : List Char) : Option Int := do
  let (negative, digits) := splitSign text
  let magnitude : Int := readDigits 0 (← decimalDigits? digits)
  return if negative then -magnitude else magnitude

/-- A decimal number without a sign that is no whole number: it has digits after a point, or an
exponent, or both. Far from zero it is infinite. -/
def fractional? (text : List Char) : Option Float := do
  let (mantissa, tail) := text.span fun c => c ≠ 'e' && c ≠ 'E'
  let (whole, point) := mantissa.span (· ≠ '.')
  let whole ← wholeDigits? whole
  let fraction ← if point.isEmpty then some [] else decimalDigits? point.tail
  let exponent ← if tail.isEmpty then some 0 else exponent? tail.tail
  return Double.ofDecimal (readDigits 0 (whole ++ fraction)) (exponent - fraction.length)

/-- The text is shaped like a whole number up to an underscore and has other characters behind it.
Such a number has no value. -/
def strays (text : List Char) : Bool :=
  let tail := text.dropWhile Char.isDigit
  text.head? ≠ some '0' && tail.head? == some '_' && (joinDigits? text).isSome &&
    tail.all fun c => c ≠ '.' && c ≠ 'e' && c ≠ 'E'

/-- The first natural number that does not fit into 128 bits. -/
def integerLimit : Nat := wordLimit * wordLimit

/-- A whole number. It has a value if it fits into 128 bits, with or without a sign. -/
def Value.ofInt (n : Int) : Value :=
  if -(integerLimit / 2 : Nat) ≤ n ∧ n < integerLimit then .integer n else .valueless

/-- A decimal number without its sign, which may be one of the two words. -/
def magnitude? (negative : Bool) (text : List Char) : Option Value :=
  let signed (a : Float) : Value := .floating (if negative then -a else a)
  match wholeDigits? text with
  | some digits =>
    let n : Int := readDigits 0 digits
    some (.ofInt (if negative then -n else n))
  | none =>
    match String.ofList text with
    | "inf" => some (signed (1.0 / 0.0))
    | "nan" => some (signed (0.0 / 0.0))
    | _ =>
      match fractional? text with
      | some a => some (if a.isFinite then signed a else .valueless)
      | none => if strays text then some .valueless else none

/-- A whole number in another base, from its digits. Without digits it has no value. -/
def inBase? (base : Nat) (digits : List Char) : Option Value :=
  if digits.isEmpty then some .valueless
  else (digitsIn? base digits).map fun n => .ofInt n

/-- The value that a number or one of the words writes. -/
def bare? (text : List Char) : Option Value :=
  match text with
  | ['t', 'r', 'u', 'e'] => some (.boolean true)
  | ['f', 'a', 'l', 's', 'e'] => some (.boolean false)
  | '0' :: 'x' :: digits => inBase? 16 digits
  | '0' :: 'o' :: digits => inBase? 8 digits
  | '0' :: 'b' :: digits => inBase? 2 digits
  | _ =>
    let (negative, magnitude) := splitSign text
    magnitude? negative magnitude

/-- The character does not end a number or a word. -/
def isBare (c : Char) : Bool :=
  !" \t\r\n#,=[]\x7b\x7d".toList.contains c

/-- A number or a word. -/
def readBare (text : List Char) : Option (Value × List Char) :=
  (bare? (text.takeWhile isBare)).map (·, text.dropWhile isBare)

end NeighborGraph.Toml
