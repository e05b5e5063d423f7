import NeighborGraph.Json.Skip

/-!
Readers of typed values.

A record is read from an object, or from a list that holds its fields in order. Fields that are not
asked for are read over, a field may come once only, and fields that may be left out keep the value
they have before reading. A fault that a record or list finds in its own make-up, and not in the
text of one element, is placed where the record or list ends.
-/

namespace NeighborGraph.Json

/-- The fault of a value of the wrong type at the beginning of a text. -/
def wrongType (expected : String) (text : List Char) : Fault :=
  let ofResult {α : Type} (found : α → Found) (peeked : Bool) :
      Except Fault (α × List Char) → Fault
    | .ok (value, rest) =>
      let cause := Cause.wrongType (found value) expected
      if peeked then .beforeNext cause rest else .after cause rest
    | .error fault => fault
  let ofWord (word : List Char) (found : Found) (rest : List Char) : Fault :=
    ofResult (fun _ : Unit => found) false ((expectWord word rest).map ((), ·))
  match text with
  | [] => .onNext .endInValue []
  | 'n' :: rest => ofWord ['u', 'l', 'l'] .null rest
  | 't' :: rest => ofWord ['r', 'u', 'e'] (.boolean true) rest
  | 'f' :: rest => ofWord ['a', 'l', 's', 'e'] (.boolean false) rest
  | '-' :: rest => ofResult Number.found true (readNumber true rest)
  | '"' :: rest => ofResult Found.text false (readString rest)
  | '[' :: _ => .beforeNext (.wrongType .list expected) text
  | '\x7b' :: _ => .beforeNext (.wrongType .map expected) text
  | c :: _ =>
    if c.isDigit then ofResult Number.found true (readNumber false text)
    else .onNext .valueExpected text

/-- A string. -/
def readText : Reader String := fun text =>
  match skipBlanks text with
  | '"' :: rest => readString rest
  | other => .error (wrongType "a string" other)

/-- A number that `convert` accepts or says is of the wrong type (`none`) or out of range. -/
def readNumberAs {α : Type} (expected : String) (convert : Number → Option (Option α)) :
    Reader α := fun text => do
  let (number, rest) ← match skipBlanks text with
    | '-' :: rest => readNumber true rest
    | c :: rest =>
      if c.isDigit then readNumber false (c :: rest)
      else throw (wrongType expected (c :: rest))
    | [] => throw (wrongType expected [])
  match convert number with
  | some (some value) => return (value, rest)
  | some none => throw (.beforeNext (.wrongValue number.found expected) rest)
  | none => throw (.beforeNext (.wrongType number.found expected) rest)

/-- Any number, as a double. -/
def readFloat : Reader Float := readNumberAs "f64" fun number => some (some number.toFloat)

/-- A natural number below `2 ^ 64`. -/
def readNatural (expected : String) : Reader Nat :=
  readNumberAs expected fun
    | .natural value => some (some value)
    | .negative _ => some none
    | .floating _ => none

/-- Null for nothing, or a value. -/
def readOption {α : Type} (read : Reader α) : Reader (Option α) := fun text =>
  match skipBlanks text with
  | 'n' :: rest => do return (none, ← expectWord ['u', 'l', 'l'] rest)
  | other => do
    let (value, rest) ← read other
    return (some value, rest)

/-- A fault that has no place yet is placed at the end of a list or an object, which is read if it
comes next. After a comma in a list, what follows has been looked at, too. -/
def Fault.settle (container : Container) (fault : Fault) : Fault :=
  if fault.placed then fault
  else
    match skipBlanks fault.rest with
    | c :: rest =>
      if c == container.closing then .after fault.cause rest
      else if c == ',' ∧ container = .list then .beforeNext fault.cause (skipBlanks rest)
      else .beforeNext fault.cause (c :: rest)
    | [] => .after fault.cause []

/-- The result with a fault placed at the end of the container. -/
def settle {α : Type} (container : Container) (result : Except Fault (α × List Char)) :
    Except Fault (α × List Char) :=
  result.mapError (Fault.settle container)

/-- The elements of a list whose opening bracket has been read; `items` holds those before, last
first. Each element has at least one character, so `fuel` need not exceed the length of the
text. -/
def readItems {α : Type} (read : Reader α) : Nat → List α → Reader (List α)
  | 0, _, text => .error (.onNext .endInList text)
  | fuel + 1, items, text =>
    let next (text : List Char) : Except Fault (List α × List Char) := do
      let (item, rest) ← read text
      readItems read fuel (item :: items) rest
    match skipBlanks text with
    | [] => .error (.onNext .endInList [])
    | ']' :: rest => .ok (items.reverse, rest)
    | ',' :: rest =>
      if items.isEmpty then next (',' :: rest)
      else
        match skipBlanks rest with
        | [] => .error (.onNext .endInValue [])
        | ']' :: tail => .error (.onNext .trailingComma (']' :: tail))
        | other => next other
    | other => if items.isEmpty then next other else .error (.onNext .listEndExpected other)

/-- A list. -/
def readList {α : Type} (read : Reader α) : Reader (List α) := fun text =>
  match skipBlanks text with
  | '[' :: rest => settle .list (readItems read (rest.length + 1) [] rest)
  | other => .error (wrongType "a sequence" other)

/-- A field of a record: how its value is read and put into the record. -/
structure Field (σ : Type) where
  /-- The name of the field. -/
  name : String
  /-- The field has to be there. -/
  required : Bool
  /-- Reads the value. -/
  read : Reader (σ → σ)

/-- A field that may be left out. -/
def Field.optional {σ α : Type} (name : String) (read : Reader α) (put : α → σ → σ) : Field σ :=
  ⟨name, false, fun text => (read text).map fun (value, rest) => (put value, rest)⟩

/-- A field that has to be there. -/
def Field.mandatory {σ α : Type} (name : String) (read : Reader α) (put : α → σ → σ) : Field σ :=
  { Field.optional name read put with required := true }

/-- What a record is made of. -/
structure RecordForm (σ : Type) where
  /-- What a fault calls the record. -/
  title : String
  /-- The record before any field has been read. -/
  start : σ
  /-- The fields, in the order in which a list gives them. -/
  fields : List (Field σ)

namespace RecordForm

variable {σ : Type}

/-- What a fault about too few elements says it expected. -/
def lengthTitle (form : RecordForm σ) : String :=
  form.title ++ " with " ++ String.ofList (decimalText form.fields.length) ++
    (if form.fields.length = 1 then " element" else " elements")

/-- The first field that has to be there and has not been seen. -/
def missing? (form : RecordForm σ) (seen : List String) : Option String :=
  (form.fields.find? fun field => field.required && !seen.contains field.name).map (·.name)

end RecordForm

/-- The text after the colon of a member. -/
def expectColon (text : List Char) : Except Fault (List Char) :=
  match skipBlanks text with
  | ':' :: rest => .ok rest
  | [] => .error (.onNext .endInObject [])
  | other => .error (.onNext .colonExpected other)

/-- One member of an object after the opening quote of its key: the record, the fields seen and the
text after it. -/
def readMember {σ : Type} (form : RecordForm σ) (seen : List String) (record : σ)
    (text : List Char) : Except Fault (σ × List String × List Char) := do
  let (key, rest) ← readString text
  match form.fields.find? fun field => field.name == key with
  | some field =>
    if seen.contains key then throw (.unplaced (.repeatedField key) rest)
    else
      let (put, rest) ← field.read (← expectColon rest)
      return (put record, key :: seen, rest)
  | none => return (record, seen, ← skipValue (← expectColon rest))

/-- The members of an object whose opening brace has been read. -/
def readMembers {σ : Type} (form : RecordForm σ) : Nat → Bool → List String → σ → Reader σ
  | 0, _, _, _, text => .error (.onNext .endInObject text)
  | fuel + 1, first, seen, record, text =>
    let next (text : List Char) : Except Fault (σ × List Char) := do
      let (record, seen, rest) ← readMember form seen record text
      readMembers form fuel false seen record rest
    match skipBlanks text with
    | [] => .error (.onNext .endInObject [])
    | '\x7d' :: rest =>
      match form.missing? seen with
      | some name => .error (.unplaced (.missingField name) ('\x7d' :: rest))
      | none => .ok (record, rest)
    | c :: rest =>
      if first then
        if c == '"' then next rest else .error (.onNext .keyNotString (c :: rest))
      else if c == ',' then
        match skipBlanks rest with
        | '"' :: tail => next tail
        | '\x7d' :: tail => .error (.onNext .trailingComma ('\x7d' :: tail))
        | [] => .error (.onNext .endInValue [])
        | other => .error (.onNext .keyNotString other)
      else .error (.onNext .objectEndExpected (c :: rest))

/-- The text of the next element of a list whose opening bracket has been read, or `none` and the
text at the closing bracket. -/
def nextElement (first : Bool) (text : List Char) : Except Fault (Bool × List Char) :=
  match skipBlanks text with
  | [] => .error (.onNext .endInList [])
  | ']' :: rest => .ok (false, ']' :: rest)
  | ',' :: rest =>
    if first then .ok (true, ',' :: rest)
    else
      match skipBlanks rest with
      | [] => .error (.onNext .endInValue [])
      | ']' :: tail => .error (.onNext .trailingComma (']' :: tail))
      | other => .ok (true, other)
  | other => if first then .ok (true, other) else .error (.onNext .listEndExpected other)

/-- The fields of a record from the elements of a list; `index` counts those before. -/
def readFields {σ : Type} (title : String) : List (Field σ) → Nat → σ → Reader σ
  | [], _, record, text => .ok (record, text)
  | field :: fields, index, record, text => do
    let (more, rest) ← nextElement (index == 0) text
    if more then
      let (put, rest) ← field.read rest
      readFields title fields (index + 1) (put record) rest
    else if field.required then throw (.unplaced (.tooShort index title) rest)
    else readFields title fields (index + 1) record rest

/-- The closing bracket after the last field of a record. -/
def endFields (text : List Char) : Except Fault (List Char) :=
  match skipBlanks text with
  | ']' :: rest => .ok rest
  | ',' :: rest =>
    match skipBlanks rest with
    | ']' :: tail => .error (.onNext .trailingComma (']' :: tail))
    | other => .error (.onNext .trailingText other)
  | [] => .error (.onNext .endInList [])
  | other => .error (.onNext .trailingText other)

/-- A record. -/
def readRecord {σ : Type} (form : RecordForm σ) : Reader σ := fun text =>
  match skipBlanks text with
  | '\x7b' :: rest =>
    settle .map (readMembers form (rest.length + 1) true [] form.start rest)
  | '[' :: rest => settle .list do
    let (record, rest) ← readFields form.lengthTitle form.fields 0 form.start rest
    return (record, ← endFields rest)
  | other => .error (wrongType form.title other)

/-- The value among `options` that a word names. -/
def chooseWord {α : Type} (options : List (String × α)) (word : String) (rest : List Char) :
    Except Fault (α × List Char) :=
  match options.lookup word with
  | some value => .ok (value, rest)
  | none => .error (.after (.unknownWord word (options.map (·.1))) rest)

/-- One of several words, written as a string or as an object with that one key and a null. -/
def readChoice {α : Type} (options : List (String × α)) : Reader α := fun text =>
  match skipBlanks text with
  | '"' :: rest => do
    let (word, rest) ← readString rest
    chooseWord options word rest
  | '\x7b' :: rest => do
    let (word, rest) ← match skipBlanks rest with
      | '"' :: rest => readString rest
      | [] => throw (.onNext .endInObject [])
      | '\x7d' :: rest => throw (.onNext .valueExpected ('\x7d' :: rest))
      | other => throw (.onNext .keyNotString other)
    let (value, rest) ← chooseWord options word rest
    let rest ← match skipBlanks (← expectColon rest) with
      | 'n' :: rest => expectWord ['u', 'l', 'l'] rest
      | other => throw (wrongType "unit" other)
    match skipBlanks rest with
    | '\x7d' :: rest => return (value, rest)
    | [] => throw (.after .endInObject [])
    | other => throw (.beforeNext .valueExpected other)
  | [] => .error (.onNext .endInValue [])
  | other => .error (.onNext .valueExpected other)

/-- A value that fills the whole text, blanks at its ends apart. -/
def readWhole {α : Type} (read : Reader α) (text : List Char) : Except Fault α := do
  let (value, rest) ← read text
  match skipBlanks rest with
  | [] => return value
  | other => throw (.onNext .trailingText other)

end NeighborGraph.Json
