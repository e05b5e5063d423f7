import NeighborGraph.Frame.Basic
import NeighborGraph.Storage.Fault

/-!
Where frames go.

A surface takes one frame after another, together with the number of the tick that it shows. It may
refuse a frame, and it may stop wanting more of them. All that a surface remembers is in its state.
-/

namespace NeighborGraph

/-- Why a frame could not be put out. -/
inductive ExportFault where
  /-- The frame cannot be drawn, or the surface refuses it. -/
  | render (reason : String)
  /-- The drawing could not be stored. -/
  | storage (fault : FileFault)
  deriving DecidableEq

/-- The reason in words. -/
def ExportFault.message : ExportFault → String
  | render reason => "Render error: " ++ reason
  | storage fault => "I/O error: " ++ fault.message

/-- A surface for frames over `α`, with states in `σ`. -/
structure Surface (α σ : Type) where
  /-- Takes the frame of a tick; the state changes even if the frame is refused. -/
  present : Nat → Frame α → σ → σ × Except ExportFault Unit
  /-- No more frames are wanted. -/
  isClosed : σ → Bool

namespace Surface

variable {α σ τ : Type}

/-- Gives every frame to two surfaces in turn; the second one does not get what the first one
refuses. The pair is closed as soon as one of the two is. -/
def pair (first : Surface α σ) (second : Surface α τ) : Surface α (σ × τ) where
  present tick frame state :=
    match first.present tick frame state.1 with
    | (s, .error fault) => ((s, state.2), .error fault)
    | (s, .ok ()) =>
      let (t, answer) := second.present tick frame state.2
      ((s, t), answer)
  isClosed state := first.isClosed state.1 || second.isClosed state.2

end Surface

/-- What a recorder remembers. -/
structure Recording (α : Type) where
  /-- The last frame, with the number of its tick. -/
  last? : Option (Nat × Frame α)
  /-- How many frames there were. -/
  presented : Nat

namespace Recording

variable {α : Type}

/-- The recording before the first frame. -/
def blank : Recording α := ⟨none, 0⟩

/-- The surface that remembers the last frame and counts all of them. -/
def surface : Surface α (Recording α) where
  present tick frame state := (⟨some (tick, frame), state.presented + 1⟩, .ok ())
  isClosed _ := false

end Recording

end NeighborGraph
