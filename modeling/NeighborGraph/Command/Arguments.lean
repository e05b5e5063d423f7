import NeighborGraph.Command.Options
import NeighborGraph.Decimal.Reader

/-!
The commands of the program and their arguments.
-/

namespace NeighborGraph

/-- What to draw, and where to. -/
structure RenderRequest where
  /-- The file with the graph document. -/
  input : String
  /-- The file for the drawing. -/
  output : String
  /-- The greatest number of ticks, in place of the configured one. -/
  ticks? : Option Nat
  /-- The directory for drawings of the single ticks. -/
  framesDirectory? : Option String
  /-- The ticks whose number is a multiple of this one are drawn. -/
  frameEvery : Nat
  /-- The file with the configuration. -/
  config? : Option String
  /-- The seed, in place of the configured one. -/
  seed? : Option UInt64
  deriving DecidableEq

/-- What to convert, and where to. -/
structure ConvertRequest where
  /-- The file with the log. -/
  input : String
  /-- The file for the document, which is printed otherwise. -/
  output? : Option String
  deriving DecidableEq

/-- A command. -/
inductive Request where
  | render (request : RenderRequest)
  | convert (request : ConvertRequest)
  deriving DecidableEq

/-- A command line. -/
structure Arguments where
  /-- How much to log. -/
  logLevel : String
  /-- What to do. -/
  request : Request
  deriving DecidableEq

/-- The number below `2 ^ 64` that a word writes, if it consists of digits, perhaps after a plus
sign. -/
def readWordNumber? (word : String) : Option Nat :=
  let digits := match word.toList with
    | '+' :: digits => digits
    | digits => digits
  if digits.isEmpty ∨ !digits.all Char.isDigit then none
  else
    let n := readDigits 0 digits
    if n < wordLimit then some n else none

/-- The option that every command takes: how much to log. -/
def logLevelOption {σ : Type} : OptionForm (Option String × σ) :=
  ⟨"log-level", none, fun value settings => some (some value, settings.2)⟩

/-- An option of a command. -/
def commandOption {σ : Type} (name : String) (short? : Option Char)
    (take : String → σ → Option σ) : OptionForm (Option String × σ) :=
  ⟨name, short?, fun value settings => (take value settings.2).map (settings.1, ·)⟩

/-- What the program takes before a command. -/
def programForm : CommandForm (Option String × Unit) :=
  ⟨[logLevelOption], false, true, ["render", "convert", "help"]⟩

namespace RenderRequest

/-- What is drawn unless the options say otherwise. -/
def usual : RenderRequest := ⟨"", "out.svg", none, none, 1, none, none⟩

/-- What the command takes. -/
def form : CommandForm (Option String × RenderRequest) where
  hasInput := true
  hasVersion := false
  commands := []
  options := [
    commandOption "output" (some 'o') fun output r => some { r with output },
    commandOption "ticks" none fun value r =>
      (readWordNumber? value).map fun n => { r with ticks? := some n },
    commandOption "frames-dir" none fun value r => some { r with framesDirectory? := some value },
    commandOption "frame-every" none fun value r =>
      (readWordNumber? value).map fun n => { r with frameEvery := n },
    commandOption "config" (some 'c') fun value r => some { r with config? := some value },
    commandOption "seed" none fun value r =>
      (readWordNumber? value).map fun n => { r with seed? := some n.toUInt64 },
    logLevelOption]

end RenderRequest

namespace ConvertRequest

/-- What is converted unless the options say otherwise. -/
def usual : ConvertRequest := ⟨"", none⟩

/-- What the command takes. -/
def form : CommandForm (Option String × ConvertRequest) where
  hasInput := true
  hasVersion := false
  commands := []
  options := [
    commandOption "output" (some 'o') fun value r => some { r with output? := some value },
    logLevelOption]

end ConvertRequest

namespace Arguments

/-- What help about the given words ends with: there is some about the program and about each
single command. -/
def helpFault : List String → UsageFault
  | [] => .help
  | [command] => if programForm.commands.contains command then .help else .unknownCommand
  | _ => .unknownCommand

/-- The words after the name of a command: what the options set, and the input. -/
def readCommand {σ : Type} (form : CommandForm (Option String × σ)) (usual : σ)
    (words : List String) : Except UsageFault (Option String × σ × String) := do
  let (r, _) ← form.read false (.start (none, usual)) words
  let r ← r.settle
  match r.input? with
  | some input => return (r.settings.1, r.settings.2, input)
  | none => throw .missingInput

/-- A command with its words: how much to log, if they say so, and what to do. -/
def readRequest (command : String) (words : List String) :
    Except UsageFault (Option String × Request) := do
  match command with
  | "render" =>
    let (logLevel?, r, input) ← readCommand RenderRequest.form .usual words
    return (logLevel?, .render { r with input })
  | "convert" =>
    let (logLevel?, r, input) ← readCommand ConvertRequest.form .usual words
    return (logLevel?, .convert { r with input })
  | _ => throw (helpFault words)

/-- The command line that words form. What a command says about logging goes before what was said
in front of it. -/
def read (words : List String) : Except UsageFault Arguments := do
  let (r, command?) ← programForm.read false (.start (none, ())) words
  match command? with
  | none => do
    let r ← r.settle
    throw (if r.given.isEmpty then .nothingGiven else .missingCommand)
  | some (command, rest) => do
    let (logLevel?, request) ← readRequest command rest
    let r ← r.settle
    return ⟨(logLevel?.or r.settings.1).getD "info", request⟩

end Arguments

end NeighborGraph
