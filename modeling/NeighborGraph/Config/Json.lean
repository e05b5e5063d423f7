import NeighborGraph.Config.Schema
import NeighborGraph.Json.Record

/-!
Configurations as JSON. Every section and every setting may be left out.
-/

namespace NeighborGraph

open Json

/-- A color, written as style sheets write it. -/
def readColor : Reader Color := fun text => do
  let (written, rest) ← readText text
  match Color.parse written with
  | .ok color => return (color, rest)
  | .error fault => throw (.unplaced (.refused (Color.faultMessage written fault)) rest)

/-- A setting as a field of a record. -/
def Setting.field {σ : Type} (s : Setting σ) : Json.Field σ :=
  match s.slot with
  | .number put => .optional s.name readFloat put
  | .count put => .optional s.name (readNatural "u64") put
  | .optionalCount put => .optional s.name (readOption (readNatural "u64")) put
  | .color put => .optional s.name readColor put
  | .optionalColor put => .optional s.name (readOption readColor) put
  | .anchor put => .optional s.name (readChoice NodeAnchor.words) put
  | .placement put => .optional s.name (readChoice LabelPlacement.words) put

/-- How the canvas and its forces are read. -/
def LayoutConfig.form : RecordForm (LayoutConfig Float) :=
  ⟨"struct LayoutConfig", .default, settings.map Setting.field⟩

/-- How the style is read. -/
def StyleConfig.form : RecordForm (StyleConfig Float) :=
  ⟨"struct StyleConfig", .default, settings.map Setting.field⟩

/-- How the course of the simulation is read. -/
def SimulationConfig.form : RecordForm (SimulationConfig Float) :=
  ⟨"struct SimulationConfig", .default, settings.map Setting.field⟩

namespace Config

/-- How a configuration is read. -/
def form : RecordForm (Config Float) where
  title := "struct AppConfig"
  start := .default
  fields := [
    .optional "layout" (readRecord LayoutConfig.form) fun layout c => { c with layout },
    .optional "style" (readRecord StyleConfig.form) fun style c => { c with style },
    .optional "simulation" (readRecord SimulationConfig.form)
      fun simulation c => { c with simulation }]

/-- The configuration that a text holds. -/
def ofJson (text : String) : Except Report (Config Float) :=
  (readWhole (readRecord form) text.toList).mapError fun fault => fault.report .whole text.toList

end Config

end NeighborGraph
