import NeighborGraph.Decimal.Text

/-!
Writing JSON, indented by two blanks for each level.
-/

namespace NeighborGraph.Json

/-- A value to be written. -/
inductive Value where
  | null
  | natural (value : Nat)
  | floating (value : Float)
  | text (value : String)
  | list (items : List Value)
  | map (members : List (String × Value))

/-- A digit of a number below sixteen. -/
def hexDigitChar (n : Nat) : Char := if n < 10 then Char.ofNat (48 + n) else Char.ofNat (87 + n)

/-- A character inside a string: only quotes, backslashes and controls are escaped. -/
def stringChar (c : Char) : List Char :=
  match c with
  | '"' => ['\\', '"']
  | '\\' => ['\\', '\\']
  | '\x08' => ['\\', 'b']
  | '\x0c' => ['\\', 'f']
  | '\n' => ['\\', 'n']
  | '\r' => ['\\', 'r']
  | '\t' => ['\\', 't']
  | c =>
    if c.toNat < 0x20 then
      ['\\', 'u', '0', '0', hexDigitChar (c.toNat / 16), hexDigitChar (c.toNat % 16)]
    else [c]

/-- A string with its quotes. -/
def stringChars (text : String) : List Char := '"' :: text.toList.flatMap stringChar ++ ['"']

/-- A double; one that is not finite is written as null. -/
def floatChars (value : Float) : List Char :=
  ((BinaryNumber.ofDouble value).documentText?).getD ['n', 'u', 'l', 'l']

/-- A line break and the indentation of a level. -/
def lineBreak (level : Nat) : List Char := '\n' :: List.replicate (2 * level) ' '

mutual

/-- The text of a value at a level of indentation. -/
def Value.chars (level : Nat) : Value → List Char
  | .null => ['n', 'u', 'l', 'l']
  | .natural value => decimalText value
  | .floating value => floatChars value
  | .text value => stringChars value
  | .list items =>
    match items with
    | [] => ['[', ']']
    | item :: rest =>
      '[' :: lineBreak (level + 1) ++ item.chars (level + 1) ++ itemsChars (level + 1) rest ++
        lineBreak level ++ [']']
  | .map members =>
    match members with
    | [] => ['\x7b', '\x7d']
    | (key, value) :: rest =>
      '\x7b' :: lineBreak (level + 1) ++ stringChars key ++ ':' :: ' ' ::
        value.chars (level + 1) ++ membersChars (level + 1) rest ++ lineBreak level ++ ['\x7d']

/-- The items of a list after the first one, each after a comma and on a line of its own. -/
def itemsChars (level : Nat) : List Value → List Char
  | [] => []
  | item :: rest => ',' :: lineBreak level ++ item.chars level ++ itemsChars level rest

/-- The members of an object after the first one. -/
def membersChars (level : Nat) : List (String × Value) → List Char
  | [] => []
  | (key, value) :: rest =>
    ',' :: lineBreak level ++ stringChars key ++ ':' :: ' ' :: value.chars level ++
      membersChars level rest

end

/-- The text of a value. -/
def Value.pretty (value : Value) : String := String.ofList (value.chars 0)

end NeighborGraph.Json
