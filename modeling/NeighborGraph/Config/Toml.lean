import NeighborGraph.Config.Schema
import NeighborGraph.Toml.Document

/-!
Configurations as TOML. Every section and every setting may be left out, and what is no setting is
read over, if it is readable.
-/

namespace NeighborGraph

open Toml

namespace Toml.Value

/-- The value as a double. Whole numbers count if they fit into 64 bits, with or without a sign. -/
def number? : Value → Option Float
  | .floating a => some a
  | .integer n => if -(wordLimit / 2 : Nat) ≤ n ∧ n < wordLimit then some (Float.ofInt n) else none
  | _ => none

/-- The value as a natural number below `2 ^ 64`. -/
def count? : Value → Option Nat
  | .integer n => if 0 ≤ n ∧ n < wordLimit then some n.toNat else none
  | _ => none

/-- The value as a color. -/
def color? : Value → Option Color
  | .text written => (Color.parse written).toOption
  | _ => none

/-- The value as one of several words, written as a string or as the only key of a table with
nothing in it. -/
def choice? {α : Type} (options : List (String × α)) : Value → Option α
  | .text word => options.lookup word
  | .table _ [(word, .table _ [])] => options.lookup word
  | .table _ [(word, .list [])] => options.lookup word
  | _ => none

end Toml.Value

/-- The section with a setting changed to a value, if the value suits the setting. -/
def Setting.assign? {σ : Type} (s : Setting σ) (v : Value) (target : σ) : Option σ :=
  match s.slot with
  | .number put => v.number?.map (put · target)
  | .count put => v.count?.map (put · target)
  | .optionalCount put => v.count?.map fun n => put (some n) target
  | .color put => v.color?.map (put · target)
  | .optionalColor put => v.color?.map fun c => put (some c) target
  | .anchor put => (v.choice? NodeAnchor.words).map (put · target)
  | .placement put => (v.choice? LabelPlacement.words).map (put · target)

/-- A section, from a table of settings or from a list of their values in order. All members of the
table are looked at, but no items of the list beyond the last setting. -/
def Setting.assignAll? {σ : Type} (settings : List (Setting σ)) (start : σ) : Value → Option σ
  | .table _ members =>
    if Value.areReadableMembers members then
      settings.foldlM (fun target s => match members.lookup s.name with
        | some v => s.assign? v target
        | none => some target) start
    else none
  | .list values => (settings.zip values).foldlM (fun target (s, v) => s.assign? v target) start
  | _ => none

namespace Config

/-- The section with the given name, or the usual one if it is left out. -/
def section? {σ : Type} (members : Members) (name : String) (settings : List (Setting σ))
    (start : σ) : Option σ :=
  match members.lookup name with
  | some v => Setting.assignAll? settings start v
  | none => some start

/-- The names of the sections. -/
def sectionNames : List String := ["layout", "style", "simulation"]

/-- The configuration that a text holds. -/
def ofToml? (text : String) : Option (Config Float) := do
  let members ← Toml.read? text
  guard (members.all fun (name, v) => sectionNames.contains name || v.isReadable)
  return {
    layout := ← section? members "layout" LayoutConfig.settings .default
    style := ← section? members "style" StyleConfig.settings .default
    simulation := ← section? members "simulation" SimulationConfig.settings .default }

end Config

end NeighborGraph
