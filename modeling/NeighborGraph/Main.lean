import NeighborGraph.Command.Diagnosis
import NeighborGraph.Command.Run

/-!
The program: carries out the command that its arguments name.

The files that a command may look at are read first, the command runs on them as a value, and what
it has changed is written back. Which single drawings there will be is not known before, so that the
command runs once more if one of them has turned out to be there already.
-/

namespace NeighborGraph

/-- What a command line may look like. -/
def usage : String :=
  "Usage: arpviz [--log-level LEVEL] render INPUT [-o FILE] [-c FILE] [--ticks N] [--seed N]\n" ++
    "                                  [--frames-dir DIR] [--frame-every K]\n" ++
    "       arpviz [--log-level LEVEL] convert INPUT [-o FILE]\n"

/-- The paths that a command names. -/
def Request.paths : Request → List String
  | .render r => r.input :: r.output :: (r.config?.toList ++ r.framesDirectory?.toList)
  | .convert r => r.input :: r.output?.toList

/-- The path of a place. -/
def placeText (place : Place) : String := "/" ++ "/".intercalate place

/-- The error number of the system for reading a directory as if it were a file. -/
def directoryCode : UInt32 := 21

/-- The error number of the system for links that lead to no end. -/
def linksCode : UInt32 := 40

/-- What stands at a place, unless it cannot be looked at. The system tells links by another path
that the place has; one that leads to no end counts as a link to itself. -/
def lookAt (place : Place) : IO (Option FileEntry) := do
  let text := placeText place
  let known ← try toString <$> IO.FS.realPath text catch _ => pure text
  if known ≠ text then return some (.link ⟨known⟩)
  try
    let handle ← IO.FS.Handle.mk text .read
    return some (.file (← handle.readBinToEnd).toList)
  catch fault =>
    match fault with
    | .inappropriateType _ code _ =>
      return if code = directoryCode then some .directory else none
    | .invalidArgument _ code _ =>
      return if code = linksCode then some (.link ⟨text⟩) else none
    | _ => return none

/-- The files with what stands where steps lead to, up to a link, and the way to go on from it. -/
def surveySteps (files : FileTree) (place : Place) :
    List String → IO (FileTree × Option Route)
  | [] => return (files, none)
  | step :: steps => do
    let next := place.enter step
    let there? ← if (files.entryAt? next).isSome then pure none else lookAt next
    let files := (there?.map (files.put next)).getD files
    match files.link? place step with
    | some target => return (files, some ((target.route place).extend steps))
    | none => surveySteps files next steps

/-- The files with what stands on a way with no more than a number of links. -/
def surveyRoute : Nat → FileTree → Route → IO FileTree
  | 0, files, _ => return files
  | advances + 1, files, route => do
    match ← surveySteps files route.start route.steps with
    | (files, none) => return files
    | (files, some route) => surveyRoute advances files route

/-- The files with what stands at a path and on the way to it. -/
def survey (files : FileTree) (path : FilePath) : IO FileTree :=
  surveyRoute (FileTree.linkLimit + 1) files (path.route files.directory)

/-- The user's own configuration file. -/
def userConfig : IO (Option FilePath) := do
  let home := (← IO.getEnv "HOME").map (· ++ "/.config")
  let settings := (← IO.getEnv "XDG_CONFIG_HOME").filter (·.startsWith "/")
  return (settings.or home).map fun directory => ⟨directory ++ "/arpviz/config.toml"⟩

/-- What a request comes to, and the files that it has been carried out on: those that are known,
and those that it would write if it knew no others. -/
def carryOut (request : Request) (w : Workplace) : IO (FileTree × Outcome) := do
  let outcome := request.run w
  let files ← outcome.files.records.foldlM (fun files (place, _) =>
    survey files ⟨placeText place⟩) w.files
  if files.records.length = w.files.records.length then return (files, outcome)
  return (files, request.run { w with files })

/-- Writes back what differs from the files before. -/
def writeBack (before after : FileTree) : IO Unit :=
  after.entries.forM fun (place, entry) => do
    if before.entryAt? place != some entry then
      match entry with
      | .directory => IO.FS.createDirAll (placeText place)
      | .file content => IO.FS.writeBinFile (placeText place) ⟨content.toArray⟩
      | .link _ => return ()

/-- Carries out a command and reports a failure. -/
def perform (request : Request) : IO UInt32 := do
  let user? ← userConfig
  let here := FilePath.steps ⟨toString (← IO.currentDir)⟩
  let named := request.paths.map FilePath.mk
  let files ← (Workplace.projectConfig :: user?.toList ++ named).foldlM survey ⟨here, [], []⟩
  let seed := (← IO.getRandomBytes 8).toList.foldl (fun n byte => n * 256 + byte.toUInt64) 0
  let (files, outcome) ← carryOut request ⟨files, user?, seed⟩
  try
    writeBack files outcome.files
  catch fault =>
    -- what the files as a value leave out, such as permissions
    IO.eprintln (toString fault)
    return 1
  IO.print outcome.printed
  match outcome.result with
  | .ok () => return 0
  | .error failure =>
    IO.eprintln (failure.code ++ ": " ++ failure.message)
    if let some hint := failure.hint? then IO.eprintln ("help: " ++ hint)
    return 1

/-- Runs the program on its arguments. -/
def start (words : List String) : IO UInt32 := do
  match Arguments.read words with
  | .ok arguments => perform arguments.request
  | .error .help =>
    IO.print usage
    return 0
  | .error .version =>
    IO.println "arpviz 0.1.0"
    return 0
  | .error _ =>
    IO.eprint usage
    return 2

end NeighborGraph

/-- The program. -/
def main (words : List String) : IO UInt32 := NeighborGraph.start words
