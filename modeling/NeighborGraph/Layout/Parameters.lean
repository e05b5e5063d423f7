import NeighborGraph.Decimal.Text
import NeighborGraph.Scalar

/-!
The constants of the force simulation, and what configured numbers have to satisfy.
-/

namespace NeighborGraph

/-- What a configured number has to be. -/
inductive Requirement where
  /-- Finite and not negative. -/
  | magnitude
  /-- Finite and above zero. -/
  | positive
  /-- At least zero and below one. -/
  | fraction
  deriving DecidableEq

/-- A configured number that is not what it has to be. -/
structure SettingFault (α : Type) where
  /-- The section of a configuration that the setting stands in, if any. -/
  part? : Option String
  /-- The name of the setting. -/
  name : String
  /-- What the number has to be. -/
  requirement : Requirement
  /-- The number. -/
  value : α

/-- What is required, in words. -/
def Requirement.message : Requirement → String
  | magnitude => "must be a finite, non-negative number"
  | positive => "must be a finite, positive number"
  | fraction => "must be in [0, 1)"

/-- The fault in words. -/
def SettingFault.message (f : SettingFault Float) : String :=
  ((f.part?.map (· ++ " ")).getD "") ++ "`" ++ f.name ++ "` " ++ f.requirement.message ++
    ", got " ++ Double.plainText f.value

variable {α : Type} [Scalar α]

/-- The number meets the requirement. -/
def Requirement.holds (r : Requirement) (value : α) : Bool :=
  match r with
  | magnitude => Scalar.isMagnitude value
  | positive => Scalar.isPositive value
  | fraction => decide (0 ≤ value) && decide (value < 1)

/-- A number that has to meet a requirement, with its name. -/
abbrev Requirements (α : Type) := List (String × Requirement × α)

/-- The first number that does not meet its requirement. -/
def Requirements.check (rs : Requirements α) (part? : Option String) :
    Except (SettingFault α) Unit :=
  match rs.find? fun (_, r, value) => !r.holds value with
  | some (name, r, value) => .error ⟨part?, name, r, value⟩
  | none => .ok ()

/-- The constants of the simulation. -/
structure ForceParameters (α : Type) where
  /-- How strongly every two nodes repel each other. -/
  charge : α
  /-- How strongly a link pulls for each unit that it is too long. -/
  spring : α
  /-- The length at which a link does not pull. -/
  restLength : α
  /-- The factor that a velocity keeps after each step. -/
  damping : α
  /-- The greatest force that acts on a node in one step. -/
  maxForce : α
  /-- The distance that softens the repulsion of near nodes. -/
  minDistance : α
  /-- How strongly nodes are pulled to the center. -/
  gravity : α
  deriving DecidableEq

namespace ForceParameters

/-- The usual constants. -/
def default : ForceParameters α := ⟨120.0, 0.1, 30.0, 0.9, 100.0, 1.0, 0.0⟩

/-- What the constants have to be. -/
def requirements (p : ForceParameters α) : Requirements α := [
  ("charge", .magnitude, p.charge),
  ("spring", .magnitude, p.spring),
  ("rest_length", .magnitude, p.restLength),
  ("gravity", .magnitude, p.gravity),
  ("damping", .fraction, p.damping),
  ("max_force", .positive, p.maxForce),
  ("min_distance", .positive, p.minDistance)]

end ForceParameters

end NeighborGraph
