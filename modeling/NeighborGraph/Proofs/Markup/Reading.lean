import Mathlib.Data.List.Infix
import NeighborGraph.Markup.Element
import NeighborGraph.Text.HexDigit

/-!
# Reading markup

How XML reads a text that has tags, references and characters, but no comments, instructions or
marked sections. Tags cannot hold a `<`, so that the text is cut at each of them: behind it stands a
tag, and then the characters up to the next one (`Xml.read?`). A tag has its name and attributes
with different names (`Xml.readTag?`); in the value of an attribute, the ends of lines and
tabulators are blanks (`Xml.normalized`), and references stand for characters (`Xml.resolve?`).
An ampersand that opens no reference is not read.
-/

namespace NeighborGraph.Xml

/-! ## Characters -/

/-- The characters that a document may hold. -/
def isLegal (c : Char) : Bool :=
  c == '\t' || c == '\n' || c == '\r' ||
    (0x20 ≤ c.toNat && c.toNat != 0xFFFE && c.toNat != 0xFFFF)

/-- Blanks, tabulators and the ends of lines. -/
def isSpace (c : Char) : Bool := c == ' ' || c == '\t' || c == '\n' || c == '\r'

/-- The character is in one of the ranges. -/
def isWithin (ranges : List (Nat × Nat)) (c : Char) : Bool :=
  ranges.any fun (low, high) => low ≤ c.toNat && c.toNat ≤ high

/-- The characters that begin a name. -/
def isNameStart : Char → Bool :=
  isWithin [(0x3A, 0x3A), (0x41, 0x5A), (0x5F, 0x5F), (0x61, 0x7A), (0xC0, 0xD6), (0xD8, 0xF6),
    (0xF8, 0x2FF), (0x370, 0x37D), (0x37F, 0x1FFF), (0x200C, 0x200D), (0x2070, 0x218F),
    (0x2C00, 0x2FEF), (0x3001, 0xD7FF), (0xF900, 0xFDCF), (0xFDF0, 0xFFFD), (0x10000, 0xEFFFF)]

/-- The characters of a name after the first one. -/
def isNameChar (c : Char) : Bool :=
  isNameStart c ||
    isWithin [(0x2D, 0x2E), (0x30, 0x39), (0xB7, 0xB7), (0x300, 0x36F), (0x203F, 0x2040)] c

/-- The text is a name. -/
def isName : List Char → Bool
  | c :: rest => isNameStart c && rest.all isNameChar
  | [] => false

/-! ## References -/

/-- The number that some digits write, at least one. -/
def readNumber? (base : Nat) (value? : Char → Option Nat) (digits : List Char) : Option Nat :=
  if digits.isEmpty then none
  else digits.foldlM (fun number c => (value? c).map (base * number + ·)) 0

/-- The character with a number. -/
def character? (number : Nat) : Option Char :=
  if number.isValidChar ∧ isLegal (Char.ofNat number) = true then some (Char.ofNat number)
  else none

/-- The character that a reference stands for, given by what is between `&` and `;`. -/
def referent? : List Char → Option Char
  | ['a', 'm', 'p'] => some '&'
  | ['l', 't'] => some '<'
  | ['g', 't'] => some '>'
  | ['q', 'u', 'o', 't'] => some '"'
  | ['a', 'p', 'o', 's'] => some '\''
  | '#' :: 'x' :: digits => (readNumber? 16 hexDigitValue? digits).bind character?
  | '#' :: digits =>
    (readNumber? 10 (fun c => if c.isDigit then hexDigitValue? c else none) digits).bind character?
  | _ => none

/-- The characters that a text stands for behind the beginning of a reference, if one is open. -/
def resolveFrom? (opened : Option (List Char)) : List Char → Option (List Char)
  | [] => if opened.isNone then some [] else none
  | c :: rest =>
    match opened with
    | none =>
      if c = '&' then resolveFrom? (some []) rest else (resolveFrom? none rest).map (c :: ·)
    | some name =>
      if c = ';' then (referent? name).bind fun d => (resolveFrom? none rest).map (d :: ·)
      else resolveFrom? (some (name ++ [c])) rest

/-- The characters that a text with references stands for. -/
def resolve? : List Char → Option (List Char) := resolveFrom? none

/-! ## Tags -/

/-- A tag with its attributes in the order in which they are written. -/
inductive Tag where
  | start (name : String) (attributes : List Attribute)
  | empty (name : String) (attributes : List Attribute)
  | stop (name : String)
  deriving DecidableEq

/-- An attribute's value with all spaces made blanks; the two characters that end a line together
make one blank. -/
def normalized : List Char → List Char
  | '\r' :: '\n' :: rest => ' ' :: normalized rest
  | c :: rest => (if isSpace c then ' ' else c) :: normalized rest
  | [] => []

/-- The value as it is read. -/
def spaced (value : String) : String := String.ofList (normalized value.toList)

/-- The text after its spaces. -/
def skipSpaces (text : List Char) : List Char := text.dropWhile isSpace

/-- The name in front of a text, and the text after it. -/
def readName? : List Char → Option (String × List Char)
  | c :: rest =>
    if isNameStart c then
      some (String.ofList (c :: rest.takeWhile isNameChar), rest.dropWhile isNameChar)
    else none
  | [] => none

/-- The value between quotes in front of a text, and the text after it. -/
def readValue? : List Char → Option (String × List Char)
  | quote :: rest =>
    if quote = '"' ∨ quote = '\'' then
      match rest.dropWhile (· != quote) with
      | _ :: after =>
        (resolve? (normalized (rest.takeWhile (· != quote)))).map fun value =>
          (String.ofList value, after)
      | [] => none
    else none
  | [] => none

/-- The attribute in front of a text, and the text after it. -/
def readAttribute? (text : List Char) : Option (Attribute × List Char) :=
  match readName? text with
  | some (name, rest) =>
    match skipSpaces rest with
    | '=' :: rest => (readValue? (skipSpaces rest)).map fun (value, after) => ((name, value), after)
    | _ => none
  | none => none

/-- Skipping spaces leaves no more than the text. -/
theorem length_skipSpaces_le (text : List Char) : (skipSpaces text).length ≤ text.length :=
  (List.dropWhile_sublist isSpace).length_le

/-- A name takes up some of the text. -/
theorem length_lt_of_readName? {text rest : List Char} {name : String}
    (h : readName? text = some (name, rest)) : rest.length < text.length := by
  cases text with
  | nil => cases h
  | cons c tail =>
    obtain ⟨-, h⟩ := Option.ite_none_right_eq_some.1 h
    obtain ⟨-, rfl⟩ := Prod.mk.inj (Option.some.inj h)
    exact Nat.lt_succ_of_le (List.dropWhile_sublist isNameChar).length_le

/-- A value takes up some of the text. -/
theorem length_lt_of_readValue? {text after : List Char} {value : String}
    (h : readValue? text = some (value, after)) : after.length < text.length := by
  cases text with
  | nil => cases h
  | cons quote rest =>
    obtain ⟨-, h⟩ := Option.ite_none_right_eq_some.1 h
    have hle := (List.dropWhile_sublist (l := rest) (· != quote)).length_le
    split at h
    · next hdrop =>
      obtain ⟨_, -, h⟩ := Option.map_eq_some_iff.1 h
      obtain ⟨-, rfl⟩ := Prod.mk.inj h
      rw [hdrop] at hle
      simp only [List.length_cons] at hle ⊢
      omega
    · cases h

/-- An attribute takes up some of the text. -/
theorem length_lt_of_readAttribute? {text rest : List Char} {a : Attribute}
    (h : readAttribute? text = some (a, rest)) : rest.length < text.length := by
  unfold readAttribute? at h
  split at h
  · next name afterName hname =>
    have hlt := length_lt_of_readName? hname
    have hspaces := length_skipSpaces_le afterName
    split at h
    · next afterEquals hequals =>
      obtain ⟨⟨value, after⟩, hvalue, h⟩ := Option.map_eq_some_iff.1 h
      obtain ⟨-, rfl⟩ := Prod.mk.inj h
      have hvalueLt := length_lt_of_readValue? hvalue
      have hvalueSpaces := length_skipSpaces_le afterEquals
      rw [hequals, List.length_cons] at hspaces
      omega
    · cases h
  · cases h

/-- The end of a tag in front of a text: whether it ends an empty element, and the text after it. -/
def readTagEnd? : List Char → Option (Bool × List Char)
  | '>' :: rest => some (false, rest)
  | '/' :: '>' :: rest => some (true, rest)
  | _ => none

/-- The attributes and the end of a tag in front of a text. A space parts each attribute from what
is before it. -/
def readAttributes? (text : List Char) : Option (List Attribute × Bool × List Char) :=
  match readTagEnd? (skipSpaces text) with
  | some tagEnd => some ([], tagEnd)
  | none =>
    if text.head?.any isSpace then
      match _h : readAttribute? (skipSpaces text) with
      | some (a, rest) => (readAttributes? rest).map fun (others, tagEnd) => (a :: others, tagEnd)
      | none => none
    else none
termination_by text.length
decreasing_by
  exact Nat.lt_of_lt_of_le (length_lt_of_readAttribute? _h) (length_skipSpaces_le text)

/-- The tag behind a `<`, and the text after it. -/
def readTag? : List Char → Option (Tag × List Char)
  | '/' :: text =>
    (readName? text).bind fun (name, rest) =>
      match skipSpaces rest with
      | '>' :: after => some (.stop name, after)
      | _ => none
  | text =>
    (readName? text).bind fun (name, rest) =>
      (readAttributes? rest).bind fun (attributes, isEmpty, after) =>
        if (attributes.map (·.1)).Nodup then
          some (if isEmpty then .empty name attributes else .start name attributes, after)
        else none

/-! ## Texts -/

/-- What XML reads from a text. -/
structure Reading where
  /-- The characters in front of the first tag, as they are written. -/
  lead : List Char
  /-- The tags, each with the characters up to the next one as they are written. -/
  tags : List (Tag × List Char)
  deriving DecidableEq

/-- The characters can stand between tags. -/
def isCharacterData (run : List Char) : Bool :=
  (resolve? run).isSome && !decide ([']', ']', '>'] <:+: run)

/-- The tags of a text and the characters between them. -/
def read? (text : List Char) : Option Reading :=
  match text.splitOn '<' with
  | lead :: pieces =>
    (pieces.mapM readTag?).bind fun tags =>
      if (lead :: tags.map (·.2)).all isCharacterData then some ⟨lead, tags⟩ else none
  | [] => none

end NeighborGraph.Xml
