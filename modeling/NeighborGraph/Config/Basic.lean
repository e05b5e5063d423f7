import NeighborGraph.Frame.Style
import NeighborGraph.Layout.Parameters

/-!
Configurations: the canvas and its forces, the course of the simulation, and the style.
-/

namespace NeighborGraph

/-- The canvas and the forces on it. -/
structure LayoutConfig (α : Type) where
  /-- The width of the canvas. -/
  width : α
  /-- The height of the canvas. -/
  height : α
  /-- The constants of the simulation. -/
  forces : ForceParameters α

/-- The course of the simulation. -/
structure SimulationConfig (α : Type) where
  /-- The time that one step takes. -/
  timeStep : α
  /-- The distance below which motion counts as rest. -/
  epsilon : α
  /-- The greatest number of ticks of a run. -/
  maxTicks : Nat
  /-- The seed of the first placement; without one it is different every time. -/
  seed : Option UInt64

/-- The style of the drawing and its background. -/
structure StyleConfig (α : Type) where
  /-- The looks of nodes, links and labels. -/
  style : Style α
  /-- The color of the canvas, if it is painted. -/
  background : Option Color

/-- A configuration. -/
structure Config (α : Type) where
  /-- The canvas and the forces on it. -/
  layout : LayoutConfig α
  /-- The style of the drawing. -/
  style : StyleConfig α
  /-- The course of the simulation. -/
  simulation : SimulationConfig α

variable {α : Type} [Scalar α]

namespace LayoutConfig

/-- A canvas of 960 by 500 units with the usual forces. -/
def default : LayoutConfig α := ⟨960.0, 500.0, .default⟩

/-- The size of the canvas. -/
def size (c : LayoutConfig α) : Size α := ⟨c.width, c.height⟩

/-- What the numbers of the section have to be. -/
def requirements (c : LayoutConfig α) : Requirements α :=
  ("width", .magnitude, c.width) :: ("height", .magnitude, c.height) :: c.forces.requirements

end LayoutConfig

namespace SimulationConfig

/-- Steps of one unit of time, at most three hundred, until nothing moves by a hundredth. -/
def default : SimulationConfig α := ⟨1.0, 0.01, 300, none⟩

/-- What the numbers of the section have to be. -/
def requirements (c : SimulationConfig α) : Requirements α :=
  [("time_step", .positive, c.timeStep), ("epsilon", .positive, c.epsilon)]

end SimulationConfig

namespace StyleConfig

/-- The usual style without a background. -/
def default : StyleConfig α := ⟨.default, none⟩

/-- What the numbers of the section have to be. -/
def requirements (c : StyleConfig α) : Requirements α := [
  ("node_width", .positive, c.style.nodeSize.width),
  ("node_height", .positive, c.style.nodeSize.height),
  ("font_size", .positive, c.style.fontSize),
  ("stroke_scale", .magnitude, c.style.strokeScale.factor)]

end StyleConfig

namespace Config

/-- The configuration that applies where nothing is set. -/
def default : Config α := ⟨.default, .default, .default⟩

/-- The first setting that the simulation cannot run with, if there is one. -/
def check (c : Config α) : Except (SettingFault α) Unit := do
  c.layout.requirements.check (some "layout")
  c.simulation.requirements.check (some "simulation")
  c.style.requirements.check (some "style")

end Config

end NeighborGraph
