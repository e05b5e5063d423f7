import NeighborGraph.Json.Scalar

/-!
Reading over values that nobody asked for.

A skipped value has to follow the grammar, down to the digits of its escapes, but its numbers may
be of any size, its surrogates need no partner and its nesting may be of any depth: the containers
that are still open are kept in a list.
-/

namespace NeighborGraph.Json

/-- What follows the letter of an escape is read over. -/
def skipEscape : List Char → Except Fault (List Char)
  | [] => .error (.after .endInString [])
  | 'u' :: rest => (readHex rest).map (·.2)
  | c :: rest =>
    if (escapeLetter? c).isSome then .ok rest else .error (.onNext .badEscape (c :: rest))

/-- An escape that is skipped takes up some of the text. -/
theorem skipEscape_length {text rest : List Char} (h : skipEscape text = .ok rest) :
    rest.length < text.length := by
  unfold skipEscape at h
  split at h
  · cases h
  · rename_i tail
    cases h₁ : readHex tail with
    | error e => rw [h₁] at h; cases h
    | ok p =>
      rw [h₁] at h
      have : p.2.length < tail.length := readHex_length (n := p.1) h₁
      have : p.2 = rest := Except.ok.inj h
      subst this
      simp only [List.length_cons]
      omega
  · split at h
    · cases h; simp only [List.length_cons]; omega
    · cases h

/-- The text after a string, whose opening quote has been read. -/
def skipString (text : List Char) : Except Fault (List Char) :=
  match text with
  | [] => .error (.after .endInString [])
  | '"' :: rest => .ok rest
  | '\\' :: tail =>
    match _h : skipEscape tail with
    | .ok rest => skipString rest
    | .error fault => .error fault
  | c :: rest =>
    if c.toNat < 0x20 then .error (.beforeNext .controlInString (c :: rest)) else skipString rest
termination_by text.length
decreasing_by
  · have := skipEscape_length _h; simp only [List.length_cons]; omega
  · simp only [List.length_cons]; omega

/-- The text after the digits of an exponent. -/
def skipExponent (text : List Char) : Except Fault (List Char) :=
  let (_, digits) := splitSign text
  match digits with
  | c :: rest =>
    if c.isDigit then .ok (rest.dropWhile Char.isDigit) else .error (.onNext .badNumber (c :: rest))
  | [] => .error (.onNext .badNumber [])

/-- The text after an exponent, if one comes next. -/
def skipScale : List Char → Except Fault (List Char)
  | 'e' :: rest => skipExponent rest
  | 'E' :: rest => skipExponent rest
  | text => .ok text

/-- The text after the part of a number that follows its first digits. -/
def skipAfterInteger : List Char → Except Fault (List Char)
  | '.' :: rest =>
    match rest with
    | c :: tail =>
      if c.isDigit then skipScale (tail.dropWhile Char.isDigit)
      else .error (.onNext .badNumber rest)
    | [] => .error (.onNext .badNumber [])
  | text => skipScale text

/-- The text after a number, whose sign has been read. -/
def skipNumber : List Char → Except Fault (List Char)
  | '0' :: rest =>
    match rest with
    | c :: _ => if c.isDigit then .error (.onNext .badNumber rest) else skipAfterInteger rest
    | [] => .ok []
  | c :: rest =>
    if c.isDigit then skipAfterInteger (rest.dropWhile Char.isDigit)
    else .error (.onNext .badNumber (c :: rest))
  | [] => .error (.onNext .badNumber [])

/-- A container that has been opened. -/
inductive Container where
  | list
  | map
  deriving DecidableEq

/-- The character that closes a container. -/
def Container.closing : Container → Char
  | list => ']'
  | map => '\x7d'

/-- The text ends inside a container. -/
def Container.endCause : Container → Cause
  | list => .endInList
  | map => .endInObject

/-- Something else follows a value inside a container. -/
def Container.separatorCause : Container → Cause
  | list => .listEndExpected
  | map => .objectEndExpected

/-- The text after the key of a member and its colon. In a list there is nothing to read over. -/
def skipKey (container : Container) (text : List Char) : Except Fault (List Char) :=
  match container with
  | .list => .ok text
  | .map =>
    match skipBlanks text with
    | '"' :: rest => do
      match skipBlanks (← skipString rest) with
      | ':' :: tail => return tail
      | [] => throw (.onNext .endInObject [])
      | other => throw (.onNext .colonExpected other)
    | [] => .error (.onNext .endInObject [])
    | other => .error (.onNext .keyNotString other)

/-- Where reading over a value stands. -/
inductive SkipStage where
  /-- A value comes next. -/
  | value
  /-- A value has just ended. -/
  | ended
  /-- The innermost container has just been opened. -/
  | opened

/-- Reads on until all open containers are closed. Each step reads at least one character, so
`fuel` need not exceed the length of the text. -/
def skipOpen : Nat → SkipStage → List Container → List Char → Except Fault (List Char)
  | 0, _, _, text => .error (.onNext .valueExpected text)
  | fuel + 1, .value, containers, text =>
    match skipBlanks text with
    | [] => .error (.onNext .endInValue [])
    | 'n' :: rest => do skipOpen fuel .ended containers (← expectWord ['u', 'l', 'l'] rest)
    | 't' :: rest => do skipOpen fuel .ended containers (← expectWord ['r', 'u', 'e'] rest)
    | 'f' :: rest => do skipOpen fuel .ended containers (← expectWord ['a', 'l', 's', 'e'] rest)
    | '-' :: rest => do skipOpen fuel .ended containers (← skipNumber rest)
    | '"' :: rest => do skipOpen fuel .ended containers (← skipString rest)
    | '[' :: rest => skipOpen fuel .opened (.list :: containers) rest
    | '\x7b' :: rest => skipOpen fuel .opened (.map :: containers) rest
    | c :: rest =>
      if c.isDigit then do skipOpen fuel .ended containers (← skipNumber (c :: rest))
      else .error (.onNext .valueExpected (c :: rest))
  | _ + 1, .ended, [], text => .ok text
  | fuel + 1, .ended, container :: outer, text =>
    match skipBlanks text with
    | [] => .error (.onNext container.endCause [])
    | ',' :: rest => do skipOpen fuel .value (container :: outer) (← skipKey container rest)
    | c :: rest =>
      if c == container.closing then skipOpen fuel .ended outer rest
      else .error (.onNext container.separatorCause (c :: rest))
  | _ + 1, .opened, [], text => .ok text
  | fuel + 1, .opened, container :: outer, text =>
    match skipBlanks text with
    | [] => .error (.onNext container.endCause [])
    | c :: rest =>
      if c == container.closing then skipOpen fuel .ended outer rest
      else do skipOpen fuel .value (container :: outer) (← skipKey container (c :: rest))

/-- The text after a value. -/
def skipValue (text : List Char) : Except Fault (List Char) :=
  skipOpen (3 * text.length + 2) .value [] text

end NeighborGraph.Json
