import NeighborGraph.Command.Arguments
import NeighborGraph.Config.Toml
import NeighborGraph.Observation.Log
import NeighborGraph.Surface.FrameFiles
import NeighborGraph.Visualization

/-!
Carrying out commands.

A command reads and writes files of a `FileTree` and may print something. Files change only when all
input has been read and found in order; what a command that fails leaves behind are drawings of
single ticks, and directories for them, at most.
-/

namespace NeighborGraph

/-- Where a command runs. -/
structure Workplace where
  /-- The files. -/
  files : FileTree
  /-- The user's own configuration file. -/
  userConfig? : Option FilePath
  /-- The seed for a placement that no seed is configured for. -/
  spareSeed : UInt64

/-- What a command leaves behind. -/
structure Outcome where
  /-- The files. -/
  files : FileTree
  /-- What is printed. -/
  printed : String
  /-- Why the command failed, if it did. -/
  result : Except Failure Unit

namespace Workplace

/-- The configuration in a file. -/
def readConfig (w : Workplace) (path : FilePath) : Except Failure (Config Float) := do
  let text ← (w.files.readText path).mapError .storage
  match Config.ofToml? text with
  | none => throw (.config .unreadable)
  | some config =>
    config.check.mapError fun fault => .config (.invalidFile fault.message)
    return config

/-- The configuration file of a project, in the directory that it is worked on in. -/
def projectConfig : FilePath := ⟨"arpviz/config.toml"⟩

/-- The configuration in effect: that of the named file, else that of the first file that exists of
the project's and the user's, else the usual one. -/
def findConfig (w : Workplace) (named? : Option String) : Except Failure (Config Float) :=
  match named? with
  | some name =>
    if w.files.contains ⟨name⟩ then w.readConfig ⟨name⟩
    else .error (.config (.missingFile name))
  | none =>
    match (projectConfig :: w.userConfig?.toList).find? w.files.contains with
    | some path => w.readConfig path
    | none => .ok .default

end Workplace

namespace RenderRequest

/-- The configuration with what the request sets in its place. -/
def adjust (r : RenderRequest) (config : Config Float) : Config Float :=
  { config with simulation := { config.simulation with
      maxTicks := r.ticks?.getD config.simulation.maxTicks
      seed := r.seed?.or config.simulation.seed } }

/-- What a request to draw needs: the configuration and the graph. -/
def load (r : RenderRequest) (w : Workplace) : Except Failure (Config Float × Graph Float) := do
  let config ← w.findConfig r.config?
  let text ← (w.files.readText ⟨r.input⟩).mapError .storage
  let graph ← (Graph.read text).mapError .ofGraphLoad
  return (r.adjust config, graph)

/-- Runs a graph to its end: the files with the drawings of single ticks, if they are asked for,
and the frame that is left. -/
def simulate (r : RenderRequest) (w : Workplace) (config : Config Float) (graph : Graph Float) :
    FileTree × Except Failure (Frame Float) :=
  match r.framesDirectory? with
  | none =>
    let (recording, result) := config.run w.spareSeed Recording.surface graph .blank
    (w.files, result.map fun (session, _) => session.finalFrame recording)
  | some name =>
    match w.files.makeDirectories ⟨name⟩ with
    | (files, .error fault) => (files, .error (.exporting (.storage fault)))
    | (files, .ok ()) =>
      let writer : FrameFiles := ⟨.ofConfig config, ⟨name⟩, r.frameEvery⟩
      let ((recording, state), result) := config.run w.spareSeed
        (.pair Recording.surface writer.surface) graph (.blank, ⟨files, []⟩)
      (state.files, result.map fun (session, _) => session.finalFrame recording)

/-- Draws a graph. -/
def run (r : RenderRequest) (w : Workplace) : Outcome :=
  match r.load w with
  | .error failure => ⟨w.files, "", .error failure⟩
  | .ok (config, graph) =>
    match r.simulate w config graph with
    | (files, .error failure) => ⟨files, "", .error failure⟩
    | (files, .ok frame) =>
      match (Canvas.ofConfig config).write frame ⟨r.output⟩ files with
      | .error fault => ⟨files, "", .error (.exporting fault)⟩
      | .ok files => ⟨files, "", .ok ()⟩

end RenderRequest

namespace ConvertRequest

/-- The document of a log. A directory can be opened like a log, but not read. -/
def load (r : ConvertRequest) (w : Workplace) : Except Failure Document :=
  match w.files.read ⟨r.input⟩ with
  | .ok log => (ObservationLog.toDocument log).mapError .load
  | .error .isDirectory => .error (.load (.unreadable .isDirectory))
  | .error fault => .error (.storage fault)

/-- Converts a log to a document. -/
def run (r : ConvertRequest) (w : Workplace) : Outcome :=
  match r.load w with
  | .error failure => ⟨w.files, "", .error failure⟩
  | .ok document =>
    match r.output? with
    | none => ⟨w.files, document.toJson ++ "\n", .ok ()⟩
    | some name =>
      match w.files.write ⟨name⟩ document.toJson.toUTF8.toList with
      | .ok files => ⟨files, "", .ok ()⟩
      | .error fault => ⟨w.files, "", .error (.storage fault)⟩

end ConvertRequest

/-- Carries out a command. -/
def Request.run (request : Request) (w : Workplace) : Outcome :=
  match request with
  | .render r => r.run w
  | .convert r => r.run w

end NeighborGraph
