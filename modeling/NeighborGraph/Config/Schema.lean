import NeighborGraph.Config.Basic

/-!
The settings of a configuration, independent of the format that they are written in.

Each section is a list of named settings; a setting says what kind of value it takes and how the
value enters the section. The readers of the single formats work from these lists.
-/

namespace NeighborGraph

/-- What kind of value a setting takes, and how it enters the section. -/
inductive Slot (σ : Type) where
  | number (put : Float → σ → σ)
  | count (put : Nat → σ → σ)
  | optionalCount (put : Option Nat → σ → σ)
  | color (put : Color → σ → σ)
  | optionalColor (put : Option Color → σ → σ)
  | anchor (put : NodeAnchor → σ → σ)
  | placement (put : LabelPlacement → σ → σ)

/-- A named setting of a section. -/
structure Setting (σ : Type) where
  /-- The name of the setting. -/
  name : String
  /-- What it takes. -/
  slot : Slot σ

/-- The words for the place of a node in its box. -/
def NodeAnchor.words : List (String × NodeAnchor) := [("center", .center), ("corner", .corner)]

/-- The words for the ways to show labels. -/
def LabelPlacement.words : List (String × LabelPlacement) :=
  [("tooltip", .tooltip), ("text", .text)]

/-- The settings of the constants of the simulation. -/
def ForceParameters.settings : List (Setting (ForceParameters Float)) := [
  ⟨"charge", .number fun v p => { p with charge := v }⟩,
  ⟨"spring", .number fun v p => { p with spring := v }⟩,
  ⟨"rest_length", .number fun v p => { p with restLength := v }⟩,
  ⟨"damping", .number fun v p => { p with damping := v }⟩,
  ⟨"max_force", .number fun v p => { p with maxForce := v }⟩,
  ⟨"min_distance", .number fun v p => { p with minDistance := v }⟩,
  ⟨"gravity", .number fun v p => { p with gravity := v }⟩]

/-- A setting of a part of a section, as a setting of the section. -/
def Setting.lift {σ τ : Type} (update : (τ → τ) → σ → σ) (s : Setting τ) : Setting σ where
  name := s.name
  slot := match s.slot with
    | .number put => .number fun v => update (put v)
    | .count put => .count fun v => update (put v)
    | .optionalCount put => .optionalCount fun v => update (put v)
    | .color put => .color fun v => update (put v)
    | .optionalColor put => .optionalColor fun v => update (put v)
    | .anchor put => .anchor fun v => update (put v)
    | .placement put => .placement fun v => update (put v)

/-- The settings of the canvas and its forces. -/
def LayoutConfig.settings : List (Setting (LayoutConfig Float)) :=
  ⟨"width", .number fun v c => { c with width := v }⟩ ::
  ⟨"height", .number fun v c => { c with height := v }⟩ ::
  ForceParameters.settings.map
    (Setting.lift fun change c => { c with forces := change c.forces })

/-- The settings of the course of the simulation. -/
def SimulationConfig.settings : List (Setting (SimulationConfig Float)) := [
  ⟨"time_step", .number fun v c => { c with timeStep := v }⟩,
  ⟨"epsilon", .number fun v c => { c with epsilon := v }⟩,
  ⟨"max_ticks", .count fun v c => { c with maxTicks := v }⟩,
  ⟨"seed", .optionalCount fun v c => { c with seed := v.map Nat.toUInt64 }⟩]

/-- The settings of the looks of nodes, links and labels. -/
def Style.settings : List (Setting (Style Float)) := [
  ⟨"node_width", .number fun v s => { s with nodeSize := ⟨v, s.nodeSize.height⟩ }⟩,
  ⟨"node_height", .number fun v s => { s with nodeSize := ⟨s.nodeSize.width, v⟩ }⟩,
  ⟨"node_anchor", .anchor fun v s => { s with anchor := v }⟩,
  ⟨"node_fill", .color fun v s => { s with nodeFill := v }⟩,
  ⟨"link_color", .color fun v s => { s with linkColor := v }⟩,
  ⟨"stroke_scale", .number fun v s => { s with strokeScale := ⟨v⟩ }⟩,
  ⟨"label_placement", .placement fun v s => { s with labelPlacement := v }⟩,
  ⟨"label_color", .color fun v s => { s with labelColor := v }⟩,
  ⟨"font_size", .number fun v s => { s with fontSize := v }⟩]

/-- The settings of the style of the drawing. -/
def StyleConfig.settings : List (Setting (StyleConfig Float)) :=
  Style.settings.map (Setting.lift fun change c => { c with style := change c.style }) ++
    [⟨"background_color", .optionalColor fun v c => { c with background := v }⟩]

end NeighborGraph
