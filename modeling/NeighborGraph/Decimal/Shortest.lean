import NeighborGraph.Decimal.Binary

/-!
The fewest decimal digits that read back.

A magnitude `significand * 2 ^ exponent` stands for the interval of reals that round to it. Among
the decimal grids of one digit, two digits and so on, `BinaryMagnitude.shortest` takes the first
one with a point in that interval, and of that grid the point nearest to the value. If a grid has
a point in the interval at all, one of the value's two neighbours on the grid is one.
-/

namespace NeighborGraph

/-- A decimal number: the integer `digits` times `10 ^ exponent`. -/
structure Decimal where
  /-- The integer written by the digits. -/
  digits : Nat
  /-- The power of ten that it is multiplied by. -/
  exponent : Int
  deriving DecidableEq

/-- Which of two equally near decimals is taken. -/
inductive TieRule where
  /-- The greater one. -/
  | upward
  /-- The one whose last digit is even. -/
  | toEven
  deriving DecidableEq

/-- The decimal digits of a natural number, most significant first. -/
def decimalText (n : Nat) : List Char := Nat.toDigits 10 n

/-- How many decimal digits a natural number has. -/
def digitCount (n : Nat) : Nat := (decimalText n).length

/-- The position `k` of the first digit of a positive quotient `num / den`:
`10 ^ (k - 1) ≤ num / den < 10 ^ k`. -/
def leadingPlace (num den : Nat) : Int :=
  if den ≤ num then digitCount (num / den)
  else
    let places := digitCount (den / num)
    if num * Nat.pow 10 (places - 1) = den then 2 - places else 1 - places

namespace Decimal

/-- The same number without zeros at the end of its digits; at most `fuel` of them go. -/
def stripped : Nat → Decimal → Decimal
  | 0, d => d
  | fuel + 1, d =>
    if d.digits ≠ 0 ∧ d.digits % 10 = 0 then stripped fuel ⟨d.digits / 10, d.exponent + 1⟩ else d

/-- The same number without zeros at the end of its digits. -/
def strip (d : Decimal) : Decimal := stripped (digitCount d.digits) d

end Decimal

/-- An interval of reals around a value, all as numerators over one denominator. -/
structure RoundingInterval where
  /-- The numerator of the value. -/
  value : Nat
  /-- The numerator of the lower end. -/
  lower : Nat
  /-- The numerator of the upper end. -/
  upper : Nat
  /-- The common denominator. -/
  den : Nat
  /-- The ends belong to the interval. -/
  closed : Bool

namespace RoundingInterval

/-- The reals that round to a magnitude; ties go to the even significand, so the ends belong to
the interval of an even one. -/
def ofMagnitude (m : BinaryMagnitude) : RoundingInterval :=
  let (num, den) := m.quarters
  let step := Nat.pow 2 m.exponent.toNat
  ⟨num, num - (if m.narrowBelow then 1 else 2) * step, num + 2 * step, 4 * den,
    m.significand % 2 == 0⟩

/-- The interval with every number divided by `10 ^ place`. -/
def scaled (r : RoundingInterval) (place : Int) : RoundingInterval :=
  let up := Nat.pow 10 (-place).toNat
  let down := Nat.pow 10 place.toNat
  ⟨r.value * up, r.lower * up, r.upper * up, r.den * down, r.closed⟩

/-- The natural number `n` lies in the interval. -/
def holds (r : RoundingInterval) (n : Nat) : Bool :=
  if r.closed then decide (r.lower ≤ n * r.den) && decide (n * r.den ≤ r.upper)
  else decide (r.lower < n * r.den) && decide (n * r.den < r.upper)

/-- Of the natural numbers next to the value, the one in the interval that is nearer to it. -/
def nearest? (r : RoundingInterval) (tie : TieRule) : Option Nat :=
  let below := r.value / r.den
  let above := below + 1
  match r.holds below, r.holds above with
  | false, false => none
  | true, false => some below
  | false, true => some above
  | true, true =>
    let toBelow := r.value - below * r.den
    let toAbove := above * r.den - r.value
    if toBelow < toAbove then some below
    else if toAbove < toBelow then some above
    else if tie = .toEven ∧ below % 2 = 0 then some below
    else some above

/-- The first of the grids of `count`, `count + 1`, … digits that has a point in the interval,
with `fuel` grids tried. -/
def search (r : RoundingInterval) (tie : TieRule) (place : Int) : Nat → Nat → Option Decimal
  | 0, _ => none
  | fuel + 1, count =>
    match (r.scaled (place - count)).nearest? tie with
    | some n => some ⟨n, place - count⟩
    | none => search r tie place fuel (count + 1)

end RoundingInterval

namespace BinaryMagnitude

/-- The shortest decimal that reads back as this magnitude, and the nearest to it of those. Twenty
digits are more than any double needs. -/
def shortest (m : BinaryMagnitude) (tie : TieRule) : Decimal :=
  if m.significand = 0 then ⟨0, 0⟩
  else
    let (num, den) := m.quotient
    match (RoundingInterval.ofMagnitude m).search tie (leadingPlace num den) 20 1 with
    | some d => d.strip
    | none => ⟨0, 0⟩

end BinaryMagnitude

end NeighborGraph
