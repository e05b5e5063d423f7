import NeighborGraph.Decimal.Reader
import NeighborGraph.Json.Fault
import NeighborGraph.Text.HexDigit

/-!
Reading the scalars of JSON: blanks, strings, numbers and the three words.

A reader takes the text and answers a value and the text after it, or the first fault.
-/

namespace NeighborGraph.Json

/-- A reader of a value in front of a text. -/
abbrev Reader (α : Type) := List Char → Except Fault (α × List Char)

/-- The four characters that may stand between tokens. -/
def isBlank (c : Char) : Bool := c == ' ' || c == '\n' || c == '\t' || c == '\r'

/-- The text after blanks. -/
def skipBlanks (text : List Char) : List Char := text.dropWhile isBlank

/-- The characters of a word, one after the other. -/
def expectWord : List Char → List Char → Except Fault (List Char)
  | [], text => .ok text
  | _ :: _, [] => .error (.after .endInValue [])
  | w :: word, c :: text =>
    if c == w then expectWord word text else .error (.onNext .wordExpected (c :: text))

/-! ### Strings -/

/-- The number written by four hexadecimal digits. Four bytes are taken whatever they are. -/
def readHex (text : List Char) : Except Fault (Nat × List Char) :=
  let fault := if byteLength (text.take 4) < 4 then Fault.after .endInString []
    else ⟨.badEscape, text, 4, false, true⟩
  match text with
  | a :: b :: c :: d :: rest =>
    match hexDigitValue? a, hexDigitValue? b, hexDigitValue? c, hexDigitValue? d with
    | some a, some b, some c, some d => .ok (((a * 16 + b) * 16 + c) * 16 + d, rest)
    | _, _, _, _ => .error fault
  | _ => .error fault

/-- The given character has to come next. -/
def expectInEscape (mark : Char) : List Char → Except Fault (List Char)
  | [] => .error (.after .endInString [])
  | c :: rest =>
    if c == mark then .ok rest else .error (.onNext .surrogateUnfinished (c :: rest))

/-- The second half of a surrogate pair, whose first half is `high`. -/
def readLowSurrogate (high : Nat) (text : List Char) : Except Fault (Char × List Char) := do
  let rest ← expectInEscape '\\' text
  let rest ← expectInEscape 'u' rest
  let (low, rest) ← readHex rest
  if low < 0xDC00 || 0xDFFF < low then throw (.after .loneSurrogate rest)
  else return (Char.ofNat (0x10000 + (high - 0xD800) * 0x400 + (low - 0xDC00)), rest)

/-- The character written by hexadecimal digits after `\u`. -/
def readUnicodeEscape (text : List Char) : Except Fault (Char × List Char) := do
  let (code, rest) ← readHex text
  if 0xDC00 ≤ code && code ≤ 0xDFFF then throw (.after .loneSurrogate rest)
  else if 0xD800 ≤ code && code ≤ 0xDBFF then readLowSurrogate code rest
  else return (Char.ofNat code, rest)

/-- The character that a letter after a backslash stands for. -/
def escapeLetter? : Char → Option Char
  | '"' => some '"'
  | '\\' => some '\\'
  | '/' => some '/'
  | 'b' => some '\x08'
  | 'f' => some '\x0c'
  | 'n' => some '\n'
  | 'r' => some '\r'
  | 't' => some '\t'
  | _ => none

/-- The character written after a backslash. -/
def readEscape : Reader Char
  | [] => .error (.after .endInString [])
  | 'u' :: rest => readUnicodeEscape rest
  | c :: rest =>
    match escapeLetter? c with
    | some value => .ok (value, rest)
    | none => .error (.onNext .badEscape (c :: rest))

/-- The digits of an escape take up some of the text. -/
theorem readHex_length {text rest : List Char} {n : Nat} (h : readHex text = .ok (n, rest)) :
    rest.length < text.length := by
  unfold readHex at h
  dsimp only at h
  split at h
  · split at h
    · cases h; simp only [List.length_cons]; omega
    · cases h
  · cases h

/-- A mark that is expected takes up some of the text. -/
theorem expectInEscape_length {mark : Char} {text rest : List Char}
    (h : expectInEscape mark text = .ok rest) : rest.length < text.length := by
  unfold expectInEscape at h
  split at h
  · cases h
  · split at h
    · cases h; simp only [List.length_cons]; omega
    · cases h

/-- The second half of a pair takes up some of the text. -/
theorem readLowSurrogate_length {high : Nat} {text rest : List Char} {c : Char}
    (h : readLowSurrogate high text = .ok (c, rest)) : rest.length < text.length := by
  unfold readLowSurrogate at h
  cases h₁ : expectInEscape '\\' text with
  | error e => rw [h₁] at h; cases h
  | ok r₁ =>
    rw [h₁] at h
    simp only [bind, Except.bind] at h
    cases h₂ : expectInEscape 'u' r₁ with
    | error e => rw [h₂] at h; cases h
    | ok r₂ =>
      rw [h₂] at h
      simp only at h
      cases h₃ : readHex r₂ with
      | error e => rw [h₃] at h; cases h
      | ok p =>
        rw [h₃] at h
        have l₁ := expectInEscape_length h₁
        have l₂ := expectInEscape_length h₂
        have l₃ : p.2.length < r₂.length := readHex_length (n := p.1) h₃
        simp only at h
        split at h
        · cases h
        · have : p.2 = rest := (Prod.mk.inj (Except.ok.inj h)).2
          subst this
          omega

/-- An escape takes up some of the text. -/
theorem readEscape_length {text rest : List Char} {c : Char}
    (h : readEscape text = .ok (c, rest)) : rest.length < text.length := by
  unfold readEscape at h
  split at h
  · cases h
  · rename_i tail
    unfold readUnicodeEscape at h
    cases h₁ : readHex tail with
    | error e => rw [h₁] at h; cases h
    | ok p =>
      obtain ⟨code, r₁⟩ := p
      simp only [bind, Except.bind, h₁] at h
      have := readHex_length h₁
      simp only [List.length_cons]
      split at h
      · cases h
      · split at h
        · have := readLowSurrogate_length h; omega
        · cases h; omega
  · split at h
    · cases h; simp only [List.length_cons]; omega
    · cases h

/-- The characters of a string up to its closing quote; `read` holds those before, last first. -/
def readStringTail (read : List Char) (text : List Char) : Except Fault (String × List Char) :=
  match text with
  | [] => .error (.after .endInString [])
  | '"' :: rest => .ok (String.ofList read.reverse, rest)
  | '\\' :: tail =>
    match _h : readEscape tail with
    | .ok (c, rest) => readStringTail (c :: read) rest
    | .error fault => .error fault
  | c :: rest =>
    if c.toNat < 0x20 then .error (.onNext .controlInString (c :: rest))
    else readStringTail (c :: read) rest
termination_by text.length
decreasing_by
  · have := readEscape_length _h; simp only [List.length_cons]; omega
  · simp only [List.length_cons]; omega

/-- A string after its opening quote. -/
def readString : Reader String := readStringTail []

/-! ### Numbers -/

/-- A number as it is read: an integer that fits 64 bits, or a double. -/
inductive Number where
  | natural (value : Nat)
  | negative (magnitude : Nat)
  | floating (value : Float)

/-- Digits that have been read into a significand. -/
structure Digits where
  /-- The significand. -/
  significand : Nat
  /-- How many digits went into it. -/
  taken : Nat
  /-- How many digits followed that it has no room for. -/
  dropped : Nat
  /-- The text after the digits. -/
  rest : List Char

/-- Digits appended to a significand for as long as it fits 64 bits; the others are counted. -/
def readDigits (significand taken : Nat) : List Char → Digits
  | [] => ⟨significand, taken, 0, []⟩
  | c :: rest =>
    if c.isDigit then
      let next := 10 * significand + (c.toNat - '0'.toNat)
      if next < wordLimit then readDigits next (taken + 1) rest
      else
        ⟨significand, taken, ((c :: rest).takeWhile Char.isDigit).length,
          rest.dropWhile Char.isDigit⟩
    else ⟨significand, taken, 0, c :: rest⟩

/-- The double `10 ^ power`. -/
def powerOfTen (power : Nat) : Float := Float.ofScientific 1 false power

/-- A double divided by `10 ^ power`, in one division if `10 ^ power` is a double. -/
def divideByPower (value : Float) (power : Nat) : Float :=
  if power ≤ 308 then value / powerOfTen power
  else if value == 0.0 then value
  else divideByPower (value / powerOfTen 308) (power - 308)
termination_by power

/-- The value of a significand and an exponent: the significand as a double, multiplied or divided
by one power of ten. No value is infinite. -/
def scaled? (significand : Nat) (exponent : Int) : Option Float :=
  let value := significand.toUInt64.toFloat
  if exponent < 0 then some (divideByPower value exponent.natAbs)
  else if exponent ≤ 308 then
    let product := value * powerOfTen exponent.natAbs
    if product.isInf then none else some product
  else if significand = 0 then some value
  else none

/-- A double of the given sign at the end of a number. -/
def finishNumber (negative : Bool) (significand : Nat) (exponent : Int) (rest : List Char) :
    Except Fault (Number × List Char) :=
  match scaled? significand exponent with
  | some value => .ok (.floating (if negative then -value else value), rest)
  | none => .error (.beforeNext .numberTooGreat rest)

/-- The greatest exponent: that of a 32-bit integer with a sign. -/
def greatestExponent : Nat := 0x7FFFFFFF

/-- Digits of an exponent, up to the one that makes it too great: the exponent, whether it is too
great, and the text after the last digit that was read. -/
def readExponentDigits (exponent : Nat) : List Char → Nat × Bool × List Char
  | [] => (exponent, false, [])
  | c :: rest =>
    if c.isDigit then
      let next := 10 * exponent + (c.toNat - '0'.toNat)
      if next ≤ greatestExponent then readExponentDigits next rest else (exponent, true, rest)
    else (exponent, false, c :: rest)

/-- The exponent kept within the range of a 32-bit integer. -/
def saturate (exponent : Int) : Int :=
  let least : Int := -greatestExponent - 1
  if exponent < least then least
  else if greatestExponent < exponent then greatestExponent else exponent

/-- The part of a number after its `e`. -/
def readExponent (negative : Bool) (significand : Nat) (exponent : Int) (text : List Char) :
    Except Fault (Number × List Char) :=
  let (below, digits) := splitSign text
  match digits with
  | [] => .error (.after .endInValue [])
  | c :: rest =>
    if c.isDigit then
      let (power, tooGreat, rest) := readExponentDigits (c.toNat - '0'.toNat) rest
      if tooGreat then
        if significand ≠ 0 ∧ ¬ below then .error (.after .numberTooGreat rest)
        else
          .ok (.floating (if negative then -0.0 else 0.0), rest.dropWhile Char.isDigit)
      else
        finishNumber negative significand
          (saturate (exponent + (if below then -(power : Int) else power))) rest
    else .error (.onNext .badNumber (c :: rest))

/-- The end of a number, perhaps with an exponent. -/
def readScale (negative : Bool) (significand : Nat) (exponent : Int) (text : List Char) :
    Except Fault (Number × List Char) :=
  match text with
  | 'e' :: rest => readExponent negative significand exponent rest
  | 'E' :: rest => readExponent negative significand exponent rest
  | _ => finishNumber negative significand exponent text

/-- The part of a number after its point; `exponent` counts the digits before it that were
dropped. -/
def readFraction (negative : Bool) (significand : Nat) (exponent : Int) (text : List Char) :
    Except Fault (Number × List Char) :=
  let digits := readDigits significand 0 text
  if digits.taken = 0 ∧ digits.dropped = 0 then
    match digits.rest with
    | [] => .error (.after .endInValue [])
    | rest => .error (.onNext .badNumber rest)
  else readScale negative digits.significand (exponent - digits.taken) digits.rest

/-- An integer: one that does not fit 64 bits, or a negative zero, becomes a double. -/
def ofInteger (negative : Bool) (value : Nat) : Number :=
  if !negative then .natural value
  else if value = 0 ∨ wordLimit / 2 < value then .floating (-(value.toUInt64.toFloat))
  else .negative value

/-- The part of a number after the digits in front. -/
def readAfterInteger (negative : Bool) (digits : Digits) : Except Fault (Number × List Char) :=
  match digits.rest with
  | '.' :: rest => readFraction negative digits.significand digits.dropped rest
  | text =>
    if digits.dropped = 0 ∧ text.head? ≠ some 'e' ∧ text.head? ≠ some 'E' then
      .ok (ofInteger negative digits.significand, text)
    else readScale negative digits.significand digits.dropped text

/-- A number after its sign. -/
def readNumber (negative : Bool) : Reader Number
  | [] => .error (.after .endInValue [])
  | '0' :: rest =>
    match rest with
    | c :: _ =>
      if c.isDigit then .error (.onNext .badNumber rest)
      else readAfterInteger negative ⟨0, 1, 0, rest⟩
    | [] => readAfterInteger negative ⟨0, 1, 0, []⟩
  | c :: rest =>
    if c.isDigit then readAfterInteger negative (readDigits 0 0 (c :: rest))
    else .error (.onNext .badNumber (c :: rest))

/-- A number as what was found in place of another value. -/
def Number.found : Number → Found
  | natural value => .integer value
  | negative magnitude => .integer (-magnitude)
  | floating value => .floating value

/-- The double that a number stands for. -/
def Number.toFloat : Number → Float
  | natural value => value.toUInt64.toFloat
  | negative magnitude => -(magnitude.toUInt64.toFloat)
  | floating value => value

end NeighborGraph.Json
