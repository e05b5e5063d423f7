import NeighborGraph.Config.Basic
import NeighborGraph.Draw.Layer
import NeighborGraph.Frame.Basic
import NeighborGraph.Storage.FileTree
import NeighborGraph.Surface.Basic

/-!
Drawings of a fixed size.

A canvas turns a frame into a vector drawing. The drawing has one group, and in it a group for each
layer that is not empty. What is written to a file has finite coordinates only.
-/

namespace NeighborGraph

/-- The pieces of all shapes of a frame. -/
def Frame.layered (frame : Frame Float) : Layered :=
  frame.foldl (fun pieces shape => pieces.merge shape.layered) []

/-- The area that frames are drawn on. -/
structure Canvas where
  /-- The size of the area. -/
  size : Size Float
  /-- The color that it is painted with first, if any. -/
  background? : Option Color

namespace Canvas

/-- The canvas that a configuration asks for. -/
def ofConfig (c : Config Float) : Canvas := ⟨c.layout.size, c.style.background⟩

/-- The painted area as markup. -/
def paint (canvas : Canvas) (color : Color) : Markup :=
  .element "rect" [("fill", color.text), ("height", Double.plainText canvas.size.height),
    ("width", Double.plainText canvas.size.width), ("x", "0"), ("y", "0")] []

/-- The pieces of a drawing: the shapes of the frame, and last the painted area. -/
def pieces (canvas : Canvas) (frame : Frame Float) : Layered :=
  match canvas.background? with
  | some color => frame.layered.add .background (canvas.paint color)
  | none => frame.layered

/-- The drawing of a frame. -/
def markup (canvas : Canvas) (frame : Frame Float) : Markup :=
  let width := Double.plainText canvas.size.width
  let height := Double.plainText canvas.size.height
  .element "svg" [("height", height), ("viewBox", "0 0 " ++ width ++ " " ++ height),
      ("width", width), ("xmlns", "http://www.w3.org/2000/svg")]
    [.element "g" [("class", "graph")] (canvas.pieces frame).groups]

/-- The text of the drawing of a frame. -/
def text (canvas : Canvas) (frame : Frame Float) : String := (canvas.markup frame).render

/-- Writes the drawing of a frame to a file. -/
def write (canvas : Canvas) (frame : Frame Float) (path : FilePath) (files : FileTree) :
    Except ExportFault FileTree :=
  if frame.isFinite then (files.write path (canvas.text frame).toUTF8.toList).mapError .storage
  else .error (.render "frame contains non-finite coordinates")

end Canvas

end NeighborGraph
