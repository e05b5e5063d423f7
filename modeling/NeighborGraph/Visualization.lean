import NeighborGraph.Canvas
import NeighborGraph.Failure

/-!
From a graph to a picture: a session that runs for the ticks that its configuration allows.
-/

namespace NeighborGraph

/-- The frame that is left of a run: the last one that was shown, or that of the session if none
was. -/
def Session.finalFrame (session : Session Float) (recording : Recording Float) : Frame Float :=
  match recording.last? with
  | some (_, frame) => frame
  | none => session.frame

namespace Config

variable {σ : Type}

/-- Runs a session of a graph to its end, showing every frame on a surface. -/
def run (config : Config Float) (spareSeed : UInt64) (surface : Surface Float σ)
    (graph : Graph Float) (state : σ) :
    σ × Except Failure (Session Float × RunSummary Float) :=
  match Session.start config spareSeed graph with
  | .error fault => (state, .error (.ofStart fault))
  | .ok session =>
    match session.run surface config.simulation.maxTicks state with
    | ((_, state), .error fault) => (state, .error (.exporting fault))
    | ((session, state), .ok summary) => (state, .ok (session, summary))

/-- The text of the drawing that a run of a graph ends with. -/
def picture (config : Config Float) (spareSeed : UInt64) (graph : Graph Float) :
    Except Failure String := do
  let (recording, result) := config.run spareSeed Recording.surface graph .blank
  let (session, _) ← result
  return (Canvas.ofConfig config).text (session.finalFrame recording)

end Config

end NeighborGraph
