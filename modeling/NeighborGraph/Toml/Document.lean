import NeighborGraph.Toml.Scalar

/-!
Reading whole TOML documents: tables with headers, dotted keys, inline tables, lists and comments.

Multi-line strings, dates and lists of tables are not part of the language read here.
-/

namespace NeighborGraph.Toml

/-- The text after spaces and tabs. -/
def skipSpaces (text : List Char) : List Char := text.dropWhile fun c => c == ' ' || c == '\t'

/-- The text at the end of a comment's line, if the comment holds no control character. -/
def skipComment : List Char → Option (List Char)
  | [] => some []
  | '\n' :: rest => some ('\n' :: rest)
  | '\r' :: '\n' :: rest => some ('\n' :: rest)
  | c :: rest => if isPlain c then skipComment rest else none

/-- The text after spaces, line ends and comments. Each step takes a character, so `fuel` need not
exceed the length of the text. -/
def skipFillerWithin : Nat → List Char → Option (List Char)
  | 0, text => some text
  | fuel + 1, text =>
    match skipSpaces text with
    | '\n' :: rest => skipFillerWithin fuel rest
    | '\r' :: '\n' :: rest => skipFillerWithin fuel rest
    | '#' :: rest => do skipFillerWithin fuel (← skipComment rest)
    | other => some other

/-- The text after spaces, line ends and comments. -/
def skipFiller (text : List Char) : Option (List Char) := skipFillerWithin text.length text

/-- The text after the end of a line, before which only a comment may stand. -/
def endLine (text : List Char) : Option (List Char) := do
  let rest ← match skipSpaces text with
    | '#' :: rest => skipComment rest
    | other => some other
  match rest with
  | [] => some []
  | '\n' :: rest => some rest
  | '\r' :: '\n' :: rest => some rest
  | _ => none

/-- The character may be part of a key without quotes. -/
def isKeyChar (c : Char) : Bool := c.isAlphanum || c == '_' || c == '-'

/-- One part of a key. -/
def readKeyPart : Reader String := fun text =>
  match text with
  | '"' :: _ => readString text
  | '\x27' :: _ => readString text
  | _ =>
    let part := text.takeWhile isKeyChar
    if part.isEmpty then none else some (String.ofList part, text.dropWhile isKeyChar)

/-- How many parts a key may have, and how deep lists and inline tables may be nested. -/
def nestingLimit : Nat := 80

/-- The parts of a key with dots between them, `count` at most, and the text after the key and the
spaces behind it. -/
def readParts : Nat → Reader (List String)
  | 0, _ => none
  | count + 1, text => do
    let (part, rest) ← readKeyPart (skipSpaces text)
    match skipSpaces rest with
    | '.' :: rest => do
      let (parts, rest) ← readParts count rest
      return (part :: parts, rest)
    | rest => return ([part], rest)

/-- A key and the text after it. -/
def readKey : Reader (List String) := readParts nestingLimit

/-- A key and the text of its value. On both sides of the equals sign stands what `skip` passes
over. -/
def readKeyOf (skip : List Char → Option (List Char)) : Reader (List String) := fun text => do
  let (key, rest) ← readKey text
  match ← skip rest with
  | '=' :: rest => return (key, ← skip rest)
  | _ => none

mutual

/-- A value with at most `depth` lists and inline tables in each other. Each step takes a character,
so `fuel` need not exceed the length of the text. -/
def readValue : Nat → Nat → Reader Value
  | 0, _, _ => none
  | fuel + 1, depth, text =>
    match text with
    | '[' :: rest => if depth = 0 then none else readItems fuel (depth - 1) [] rest
    | '\x7b' :: rest => if depth = 0 then none else readMembers fuel (depth - 1) [] rest
    | '"' :: _ => (readString text).map fun (value, rest) => (.text value, rest)
    | '\x27' :: _ => (readString text).map fun (value, rest) => (.text value, rest)
    | _ => readBare text

/-- The items of a list whose opening bracket has been read; `items` holds those before, last
first. -/
def readItems : Nat → Nat → List Value → Reader Value
  | 0, _, _, _ => none
  | fuel + 1, depth, items, text => do
    match ← skipFiller text with
    | ']' :: rest => return (.list items.reverse, rest)
    | text =>
      let (item, rest) ← readValue fuel depth text
      match ← skipFiller rest with
      | ',' :: rest => readItems fuel depth (item :: items) rest
      | ']' :: rest => return (.list (item :: items).reverse, rest)
      | _ => none

/-- The members of an inline table whose opening brace has been read. -/
def readMembers : Nat → Nat → Members → Reader Value
  | 0, _, _, _ => none
  | fuel + 1, depth, members, text => do
    match ← skipFiller text with
    | '\x7d' :: rest => return (.table .inline members, rest)
    | text =>
      let (key, rest) ← readKeyOf skipFiller text
      let (value, rest) ← readValue fuel depth rest
      let members ← members.assign value key
      match ← skipFiller rest with
      | ',' :: rest => readMembers fuel depth members rest
      | '\x7d' :: rest => return (.table .inline members, rest)
      | _ => none

end

/-- The header of a table, whose opening bracket has been read, and the text after its line. -/
def readHeader (text : List Char) : Option (List String × List Char) := do
  match ← readKey text with
  | (path, ']' :: rest) => return (path, ← endLine rest)
  | _ => none

/-- The members of a document, from its lines; `path` leads to the table that keys go to. Each
line takes a character, so `fuel` need not exceed the length of the text. -/
def readLines : Nat → List String → Members → List Char → Option Members
  | 0, _, _, _ => none
  | fuel + 1, path, members, text => do
    match ← skipFiller text with
    | [] => return members
    | '[' :: rest =>
      let (path, rest) ← readHeader rest
      readLines fuel path (← members.defineTable path) rest
    | text =>
      let (key, rest) ← readKeyOf (some ∘ skipSpaces) text
      let (value, rest) ← readValue (rest.length + 1) nestingLimit rest
      readLines fuel path (← members.assignIn path key value) (← endLine rest)

/-- The members of the document that a text holds; a byte order mark in front is passed over. -/
def read? (text : String) : Option Members :=
  let text := match text.toList with
    | '\uFEFF' :: rest => rest
    | text => text
  readLines (text.length + 1) [] [] text

end NeighborGraph.Toml
