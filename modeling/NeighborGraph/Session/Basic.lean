import NeighborGraph.Config.Basic
import NeighborGraph.Scene
import NeighborGraph.Surface.Basic

/-!
Sessions: a scene that runs tick by tick.

A tick is one step of the simulation and one frame for a surface. A run ticks until the session is
closed, the motion has died down or the budget is spent, in this order of precedence. A refused
frame ends a run with the fault, after the step has been made.
-/

namespace NeighborGraph

/-- A scene that runs. -/
structure Session (α : Type) where
  /-- The simulation on show. -/
  scene : Scene α
  /-- The time that one step takes. -/
  timeStep : α
  /-- The distance below which motion counts as rest. -/
  epsilon : α
  /-- The number of ticks so far. -/
  ticks : Nat
  /-- No more ticks are made. -/
  closed : Bool

/-- Why a session could not be started. -/
inductive StartFault (α : Type) where
  /-- The configuration cannot be used. -/
  | config (fault : SettingFault α)
  /-- The graph has a fault. -/
  | graph (fault : GraphFault α)

/-- Why a run has ended. -/
inductive StopReason where
  /-- The motion has died down. -/
  | converged
  /-- The budget is spent. -/
  | budgetSpent
  /-- The session is closed. -/
  | closed
  deriving DecidableEq

/-- What a run has done. -/
structure RunSummary (α : Type) where
  /-- The ticks of the run. -/
  ticks : Nat
  /-- The ticks since the start of the session. -/
  totalTicks : Nat
  /-- Why the run has ended. -/
  reason : StopReason
  /-- The greatest distance that a node moved in the last step, if known. -/
  displacement? : Option α

variable {α σ : Type} [Scalar α]

namespace Session

/-- Starts a session: checks the configuration and scatters the nodes over the canvas. The spare
seed serves where the configuration has none. -/
def start (config : Config α) (spareSeed : UInt64) (graph : Graph α) :
    Except (StartFault α) (Session α) := do
  config.check.mapError .config
  let generator := Generator.ofSeed (config.simulation.seed.getD spareSeed)
  let simulation ← ((Simulation.ofGraph config.layout.forces generator graph).scatter
    config.layout.size).mapError .graph
  return ⟨.ofSimulation simulation config.style.style, config.simulation.timeStep,
    config.simulation.epsilon, 0, false⟩

/-- The motion has died down. -/
def isConverged (s : Session α) : Bool := s.scene.simulation.isConverged s.epsilon

/-- The frame of the current positions. -/
def frame (s : Session α) : Frame α := s.scene.frame

/-- The session after its last tick. -/
def close (s : Session α) : Session α := { s with closed := true }

/-- The session after one step, not yet shown. -/
def advance (s : Session α) : Session α :=
  { s with scene := s.scene.step s.timeStep, ticks := s.ticks + 1 }

/-- One step, shown on a surface; the session closes when the surface does. A closed session does
nothing. The answer is whether a step was made. -/
def tick (surface : Surface α σ) (s : Session α) (state : σ) :
    (Session α × σ) × Except ExportFault Bool :=
  if s.closed then ((s, state), .ok false)
  else
    let s := s.advance
    match surface.present s.ticks s.frame state with
    | (state, .error fault) => ((s, state), .error fault)
    | (state, .ok ()) => ((if surface.isClosed state then s.close else s, state), .ok true)

/-- The summary of a run of the given number of ticks that ends here. -/
def summary (s : Session α) (ticks : Nat) (reason : StopReason) : RunSummary α :=
  ⟨ticks, s.ticks, reason, s.scene.simulation.displacement?⟩

/-- Ticks on, after the given number of ticks of the same run, as long as the budget lasts. -/
def runFrom (surface : Surface α σ) (ticks : Nat) : (budget : Nat) → Session α → σ →
    (Session α × σ) × Except ExportFault (RunSummary α)
  | budget, s, state =>
    if s.closed then ((s, state), .ok (s.summary ticks .closed))
    else if s.isConverged then ((s, state), .ok (s.summary ticks .converged))
    else
      match budget with
      | 0 => ((s, state), .ok (s.summary ticks .budgetSpent))
      | budget + 1 =>
        match tick surface s state with
        | (after, .error fault) => (after, .error fault)
        | ((s, state), .ok _) => runFrom surface (ticks + 1) budget s state

/-- Ticks until the session is closed, the motion has died down or the budget is spent. -/
def run (surface : Surface α σ) (budget : Nat) (s : Session α) (state : σ) :
    (Session α × σ) × Except ExportFault (RunSummary α) :=
  runFrom surface 0 budget s state

/-- Presses the pointer on a point. -/
def press (s : Session α) (point : Point α) :
    Session α × Except PositionFault (Option NodeId) :=
  let (scene, answer) := s.scene.press point
  ({ s with scene }, answer)

/-- Moves the pointer to a point. -/
def moveTo (s : Session α) (point : Point α) : Session α × Except PositionFault Bool :=
  let (scene, answer) := s.scene.moveTo point
  ({ s with scene }, answer)

/-- Releases the pointer. -/
def release (s : Session α) : Session α × Except PositionFault (Option NodeId) :=
  let (scene, answer) := s.scene.release
  ({ s with scene }, answer)

end Session

end NeighborGraph
