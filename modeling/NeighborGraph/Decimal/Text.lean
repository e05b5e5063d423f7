import NeighborGraph.Decimal.Shortest

/-!
How numbers are written.

There are two notations for the shortest decimal of a number. The plain one, for messages and
drawings, never uses an exponent and gives whole numbers without a point. The document one keeps a
point in whole numbers and turns to an exponent when the number is very large or very small.
`fixed` and `scientific` round the exact value to a given number of digits instead.
-/

namespace NeighborGraph

/-- A list of zeros. -/
def zeros (n : Nat) : List Char := List.replicate n '0'

namespace Decimal

/-- The place of the point among the digits: how many of them stand before it. It may be negative
or beyond the last digit. -/
def pointPlace (d : Decimal) : Int := digitCount d.digits + d.exponent

/-- The digits with a point, zeros filling the gap to it, and no exponent. -/
def plainText (d : Decimal) : List Char :=
  let digits := decimalText d.digits
  let place := d.pointPlace
  if d.digits = 0 then ['0']
  else if place ≤ 0 then '0' :: '.' :: zeros (-place).toNat ++ digits
  else if digits.length ≤ place.toNat then digits ++ zeros (place.toNat - digits.length)
  else digits.take place.toNat ++ '.' :: digits.drop place.toNat

/-- The first digit, a point and the others, if there are others. -/
def significandText (d : Decimal) : List Char :=
  match decimalText d.digits with
  | [] => []
  | [c] => [c]
  | c :: rest => c :: '.' :: rest

/-- Plain text with at least one digit after the point. -/
def pointedText (d : Decimal) : List Char :=
  let text := d.plainText
  if text.contains '.' then text else text ++ ['.', '0']

/-- A document writes numbers from `10 ^ -5` up to `10 ^ 16` with a point and others with a signed
exponent. -/
def documentText (d : Decimal) : List Char :=
  let power := d.pointPlace - 1
  if d.digits = 0 ∨ (-5 ≤ power ∧ power < 16) then d.pointedText
  else
    d.significandText ++ 'e' :: (if power < 0 then '-' else '+') :: decimalText power.natAbs

end Decimal

/-- The sign in front of a number. -/
def signText (negative : Bool) : List Char := if negative then ['-'] else []

namespace BinaryNumber

/-- The plain text of a number: the fewest digits that read back, without an exponent; of two
equally near candidates the greater. -/
def plainText : BinaryNumber → String
  | nan => "NaN"
  | infinite negative => if negative then "-inf" else "inf"
  | finite negative m => String.ofList (signText negative ++ (m.shortest .upward).plainText)

/-- The text of a number in a document: the fewest digits that read back; of two equally near
candidates the even one. A document has no text for what is not finite. -/
def documentText? : BinaryNumber → Option (List Char)
  | finite negative m => some (signText negative ++ (m.shortest .toEven).documentText)
  | _ => none

end BinaryNumber

/-- The quotient `num / den` rounded to a natural number; a half goes to the even neighbour. -/
def roundQuotient (num den : Nat) : Nat :=
  let below := num / den
  let twice := 2 * (num % den)
  if twice < den then below
  else if den < twice then below + 1
  else if below % 2 = 0 then below else below + 1

namespace BinaryMagnitude

/-- The value rounded to a multiple of `10 ^ place`, as a count of such units. -/
def roundAt (m : BinaryMagnitude) (place : Int) : Nat :=
  let (num, den) := m.quotient
  roundQuotient (num * Nat.pow 10 (-place).toNat) (den * Nat.pow 10 place.toNat)

/-- The value rounded to the given number of digits after the point. -/
def fixedText (m : BinaryMagnitude) (places : Nat) : List Char :=
  let digits := decimalText (m.roundAt (-places))
  let padded := zeros (places + 1 - digits.length) ++ digits
  padded.take (padded.length - places) ++ '.' :: padded.drop (padded.length - places)

/-- The value rounded to one digit before and `places` digits after the point. -/
def rounded (m : BinaryMagnitude) (places : Nat) : Decimal :=
  if m.significand = 0 then ⟨0, 0⟩
  else
    let (num, den) := m.quotient
    let place := leadingPlace num den - (places + 1)
    let digits := m.roundAt place
    if digitCount digits = places + 2 then ⟨digits / 10, place + 1⟩ else ⟨digits, place⟩

/-- The value as one digit, a point, `places` digits and an exponent of ten. -/
def scientificText (m : BinaryMagnitude) (places : Nat) : List Char :=
  let d := m.rounded places
  let digits := if d.digits = 0 then zeros (places + 1) else decimalText d.digits
  let power := if d.digits = 0 then 0 else d.pointPlace - 1
  digits.take 1 ++ '.' :: digits.drop 1 ++ 'e' :: signText (power < 0) ++ decimalText power.natAbs

end BinaryMagnitude

namespace BinaryNumber

/-- The number with the given count of digits after the point. -/
def fixedText (places : Nat) : BinaryNumber → String
  | finite negative m => String.ofList (signText negative ++ m.fixedText places)
  | other => other.plainText

/-- The number with one digit before and the given count after the point, and an exponent. -/
def scientificText (places : Nat) : BinaryNumber → String
  | finite negative m => String.ofList (signText negative ++ m.scientificText places)
  | other => other.plainText

end BinaryNumber

/-- The plain text of a double. -/
def Double.plainText (a : Float) : String := (BinaryNumber.ofDouble a).plainText

/-- The plain text of a single. -/
def Single.plainText (a : Float32) : String := (BinaryNumber.ofSingle a).plainText

end NeighborGraph
