/-!
Reading the words of a command line.

A command takes options, at most one input, and perhaps the name of another command. The value of an
option follows it as a word of its own or is attached to it. An option counts only when the next
word has been looked at, so a word that cannot be read at all is reported before the bad value of
the option in front of it.
-/

namespace NeighborGraph

/-- Why a command line starts no command. -/
inductive UsageFault where
  /-- The input is missing. -/
  | missingInput
  /-- The command is missing. -/
  | missingCommand
  /-- There is no such option, or no room for another input. -/
  | unknownWord
  /-- There is no such command. -/
  | unknownCommand
  /-- An option cannot take its value. -/
  | badValue
  /-- An option has no value. -/
  | missingValue
  /-- An option stands alone but has been given a value. -/
  | needlessValue
  /-- An option is given twice. -/
  | repeatedOption
  /-- Help is asked for. -/
  | help
  /-- The version is asked for. -/
  | version
  /-- There is nothing on the command line. -/
  | nothingGiven
  deriving DecidableEq

/-- An option with a value. -/
structure OptionForm (σ : Type) where
  /-- The long name, after two dashes. -/
  name : String
  /-- The short name, after one dash. -/
  short? : Option Char
  /-- Takes a value in, unless it does not suit. -/
  take : String → σ → Option σ

/-- What a command takes. -/
structure CommandForm (σ : Type) where
  /-- The options. -/
  options : List (OptionForm σ)
  /-- The command takes an input. -/
  hasInput : Bool
  /-- The version can be asked for. -/
  hasVersion : Bool
  /-- The commands that may follow. -/
  commands : List String

/-- What has been read of a command line. -/
structure ReadOptions (σ : Type) where
  /-- What the options have set. -/
  settings : σ
  /-- The input. -/
  input? : Option String
  /-- The names of the options that count. -/
  given : List String
  /-- The last option, with its value if it has got one, before it counts. -/
  pending? : Option (OptionForm σ × Option String)

namespace ReadOptions

variable {σ : Type}

/-- Nothing has been read. -/
def start (settings : σ) : ReadOptions σ := ⟨settings, none, [], none⟩

/-- The last option waits for its value. -/
def isWaiting (r : ReadOptions σ) : Bool :=
  match r.pending? with
  | some (_, none) => true
  | _ => false

/-- Makes the last option count. -/
def settle (r : ReadOptions σ) : Except UsageFault (ReadOptions σ) :=
  match r.pending? with
  | none => .ok r
  | some (_, none) => .error .missingValue
  | some (option, some value) =>
    if r.given.contains option.name then .error .repeatedOption
    else
      match option.take value r.settings with
      | some settings =>
        .ok { r with settings, given := option.name :: r.given, pending? := none }
      | none => .error .badValue

/-- Begins an option; one with an attached value counts at once. -/
def begin (r : ReadOptions σ) (option : OptionForm σ) (value? : Option String) :
    Except UsageFault (ReadOptions σ) := do
  let r := { ← r.settle with pending? := some (option, value?) }
  if value?.isSome then r.settle else return r

/-- Takes a word as the value that the last option waits for. -/
def supply (r : ReadOptions σ) (word : String) : ReadOptions σ :=
  { r with pending? := r.pending?.map fun (option, _) => (option, some word) }

/-- Ends the reading with a message that is asked for. -/
def interrupt (r : ReadOptions σ) (fault : UsageFault) : Except UsageFault (ReadOptions σ) := do
  let _ ← r.settle
  throw fault

end ReadOptions

namespace CommandForm

variable {σ : Type}

/-- A word that begins with two dashes, without them. -/
def readLong (form : CommandForm σ) (r : ReadOptions σ) (word : List Char) :
    Except UsageFault (ReadOptions σ) :=
  let name := String.ofList (word.takeWhile (· ≠ '='))
  let value? := match word.dropWhile (· ≠ '=') with
    | _ :: value => some (String.ofList value)
    | [] => none
  let ask (fault : UsageFault) : Except UsageFault (ReadOptions σ) :=
    if value?.isSome then .error .needlessValue else r.interrupt fault
  match form.options.find? fun option => option.name == name with
  | some option => r.begin option value?
  | none =>
    if name = "help" then ask .help
    else if name = "version" ∧ form.hasVersion then ask .version
    else .error .unknownWord

/-- A word that begins with one dash, without it: an option may have its value attached, with or
without an equals sign. -/
def readShort (form : CommandForm σ) (r : ReadOptions σ) (name : Char) (attached : List Char) :
    Except UsageFault (ReadOptions σ) :=
  let value? := match attached with
    | [] => none
    | '=' :: value => some (String.ofList value)
    | value => some (String.ofList value)
  match form.options.find? fun option => option.short? == some name with
  | some option => r.begin option value?
  | none =>
    if name = 'h' then r.interrupt .help
    else if name = 'V' ∧ form.hasVersion then r.interrupt .version
    else .error .unknownWord

/-- A word that is no option; `literal` says that it could not have been one. -/
def readInput (form : CommandForm σ) (r : ReadOptions σ) (literal : Bool) (word : String) :
    Except UsageFault (ReadOptions σ) := do
  if form.hasInput ∧ r.input?.isNone then return { ← r.settle with input? := some word }
  else if form.commands.isEmpty ∨ (literal ∧ form.commands.contains word) then throw .unknownWord
  else throw .unknownCommand

/-- A word that does not follow a pair of dashes on their own. -/
def readWord (form : CommandForm σ) (r : ReadOptions σ) (word : String) :
    Except UsageFault (ReadOptions σ) :=
  match word.toList with
  | '-' :: '-' :: long => form.readLong r long
  | '-' :: name :: attached => form.readShort r name attached
  | _ => if r.isWaiting then .ok (r.supply word) else form.readInput r false word

/-- The words up to the name of another command: what they set, and that name with the words after
it. After a pair of dashes on their own no word is an option; `literal` says that they have been
read. -/
def read (form : CommandForm σ) (literal : Bool) (r : ReadOptions σ) :
    List String → Except UsageFault (ReadOptions σ × Option (String × List String))
  | [] => .ok (r, none)
  | word :: rest => do
    if literal then read form true (← form.readInput r true word) rest
    else if word = "--" then read form true r rest
    else if !r.isWaiting ∧ form.commands.contains word then return (r, some (word, rest))
    else read form false (← form.readWord r word) rest

end CommandForm

end NeighborGraph
