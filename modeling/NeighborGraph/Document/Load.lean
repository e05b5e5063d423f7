import NeighborGraph.Document.Json
import NeighborGraph.Graph.Builder
import NeighborGraph.Storage.Fault

/-!
From the text of a document to a graph.
-/

namespace NeighborGraph

/-- Why no document could be read. -/
inductive LoadFault where
  /-- The input could not be read. -/
  | unreadable (fault : FileFault)
  /-- The text is no graph document. -/
  | badDocument (report : Json.Report)
  /-- A line of a log is no observation; lines count from one. -/
  | badObservation (line : Nat) (report : Json.Report)

/-- The reason in words. -/
def LoadFault.message : LoadFault → String
  | unreadable fault => "failed to read input: " ++ fault.message
  | badDocument report => "malformed graph document: " ++ report.message
  | badObservation line report =>
    "malformed ARP observation on line " ++ String.ofList (decimalText line) ++ ": " ++
      report.message

/-- Why a text yields no graph. -/
inductive GraphLoadFault where
  /-- It holds no document. -/
  | load (fault : LoadFault)
  /-- The document describes no graph. -/
  | graph (fault : GraphFault Float)

/-- The document that a text holds. -/
def Document.read (source : Json.Source) (text : String) : Except LoadFault Document :=
  (Document.ofJson text.toList).mapError fun fault => .badDocument (fault.report source text.toList)

/-- The graph that a text describes. -/
def Graph.read (text : String) : Except GraphLoadFault (Graph Float) := do
  let document ← (Document.read .whole text).mapError .load
  document.toGraph.mapError .graph

end NeighborGraph
