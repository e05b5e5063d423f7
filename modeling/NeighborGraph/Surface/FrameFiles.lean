import NeighborGraph.Canvas

/-!
Frames as files: the surface that writes the drawing of every k-th tick into a directory.
-/

namespace NeighborGraph

/-- Which frames are written, and where. -/
structure FrameFiles where
  /-- What the frames are drawn on. -/
  canvas : Canvas
  /-- The directory. -/
  directory : FilePath
  /-- The frames of the multiples of this number are written; zero counts as one. -/
  every : Nat

namespace FrameFiles

/-- The name of the file for a tick: its number with at least five digits. -/
def fileName (tick : Nat) : String :=
  let digits := decimalText tick
  "frame-" ++ String.ofList (List.replicate (5 - digits.length) '0' ++ digits) ++ ".svg"

/-- Files, and the names of those that have been written so far. -/
structure State where
  /-- The files. -/
  files : FileTree
  /-- The names of the written ones, in order. -/
  written : List String

/-- The frame of this tick is written. -/
def takes (w : FrameFiles) (tick : Nat) : Bool := tick % max w.every 1 == 0

/-- The surface that writes the frames. -/
def surface (w : FrameFiles) : Surface Float State where
  present tick frame state :=
    if w.takes tick then
      match w.canvas.write frame (w.directory.child (fileName tick)) state.files with
      | .ok files => (⟨files, state.written ++ [fileName tick]⟩, .ok ())
      | .error fault => (state, .error fault)
    else (state, .ok ())
  isClosed _ := false

end FrameFiles

end NeighborGraph
