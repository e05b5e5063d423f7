import NeighborGraph.Storage.Fault

/-!
Paths as they are written.

A path is a text of steps with slashes between them. A step is a name, a dot to stay where one is,
or two dots to go up. Steps lead from one place to another; `Place.enter` says to which one.
-/

namespace NeighborGraph

/-- A place, as the names on the way to it from the root. -/
abbrev Place := List String

/-- The place that a step leads to. Nothing is above the root. -/
def Place.enter (place : Place) (step : String) : Place :=
  if step = "." then place
  else if step = ".." then place.dropLast
  else place ++ [step]

/-- A way to go: steps that are still to be taken, and the place to take them from. -/
structure Route where
  /-- Where the first step is taken. -/
  start : Place
  /-- The steps. -/
  steps : List String

/-- The route that goes on with further steps. -/
def Route.extend (route : Route) (more : List String) : Route := ⟨route.start, route.steps ++ more⟩

/-- How far steps have led: to the place of the last one, or to a link, from which another route is
to be taken. -/
inductive Progress where
  | arrived (place : Place)
  | turned (route : Route)

/-- A path, as it is written. -/
structure FilePath where
  /-- The text of the path. -/
  text : String
  deriving DecidableEq

namespace FilePath

/-- A path has fewer bytes than this. -/
def lengthLimit : Nat := 4096

/-- A step has at most this many bytes. -/
def stepLimit : Nat := 255

/-- The pieces of a text between its slashes. -/
def splitSlashes : List Char → List (List Char)
  | [] => [[]]
  | '/' :: rest => [] :: splitSlashes rest
  | c :: rest =>
    match splitSlashes rest with
    | piece :: pieces => (c :: piece) :: pieces
    | [] => [[c]]

/-- The steps of a path. -/
def steps (path : FilePath) : List String :=
  ((splitSlashes path.text.toList).filter (!·.isEmpty)).map String.ofList

/-- The path begins with a slash, so that it is told from the root. -/
def startsWithSlash (path : FilePath) : Bool := path.text.toList.head? == some '/'

/-- The path ends with a slash, so that it can only mean a directory. -/
def endsWithSlash (path : FilePath) : Bool := path.text.toList.getLast? == some '/'

/-- Where the first step is taken, if paths that are not told from the root begin at a place. -/
def origin (path : FilePath) (place : Place) : Place := if path.startsWithSlash then [] else place

/-- The way to what a path means. A slash behind the last step asks for a directory, as one more dot
would. -/
def route (path : FilePath) (place : Place) : Route :=
  ⟨path.origin place, if path.endsWithSlash then path.steps ++ ["."] else path.steps⟩

/-- The way to the directory from which a path takes its last step. -/
def parentRoute (path : FilePath) (place : Place) : Route :=
  ⟨path.origin place, path.steps.dropLast⟩

/-- The name that the path ends with, if its last step is a name. -/
def name? (path : FilePath) : Option String :=
  path.steps.getLast?.filter fun step => step ≠ "." && step ≠ ".."

/-- A path that no system call takes is refused. -/
def check (path : FilePath) : Except FileFault Unit :=
  if path.text.toList.contains '\x00' then .error .nulCharacter
  else if path.text = "" then .error .notFound
  else if lengthLimit ≤ path.text.utf8ByteSize then .error .nameTooLong
  else .ok ()

/-- The path of a name in the directory that a path leads to. -/
def child (path : FilePath) (name : String) : FilePath :=
  ⟨if path.text = "" ∨ path.endsWithSlash then path.text ++ name else path.text ++ "/" ++ name⟩

/-- The path with the given steps that begins where another one does. -/
def withSteps (path : FilePath) (steps : List String) : FilePath :=
  ⟨(if path.startsWithSlash then "/" else "") ++ "/".intercalate steps⟩

/-- A path and those above it, each one step shorter than the one before; a dot is no step here, and
the empty path has none. -/
def ancestors (path : FilePath) : List FilePath :=
  let names := path.steps.filter (· ≠ ".")
  let above := (List.range' 1 (names.length - 1)).map fun count => path.withSteps (names.take count)
  if path.text = "" then [] else path :: above.reverse

end FilePath

end NeighborGraph
