import NeighborGraph.Failure

/-!
What users are told about a failure, besides its message: a code, and a hint where the remedy is
usually plain.
-/

namespace NeighborGraph

namespace Failure

/-- The code of a kind of failure. -/
def code : Failure → String
  | load _ => "arpviz::load"
  | graph _ => "arpviz::graph"
  | storage _ => "arpviz::io"
  | config _ => "arpviz::config"
  | position _ => "arpviz::layout"
  | exporting _ => "arpviz::export"

/-- What to look at. -/
def hint? : Failure → Option String
  | load (.unreadable _) => none
  | load (.badDocument _) =>
    some "a graph document is a JSON object with `nodes` and `links` arrays"
  | load (.badObservation _ _) =>
    some "each log line needs string fields `s` and `d` and a non-negative number `pk`"
  | graph (.duplicateNode _) => some "node names, or their explicit `id`s, must be unique"
  | graph (.unknownEnd _ _) => some "link `source` and `target` are zero-based indices into `nodes`"
  | graph (.unknownPosition _ _ _) =>
    some "link `source` and `target` are zero-based indices into `nodes`"
  | graph (.badWeight _ _) => some "link `value` must be a finite, non-negative number"
  | storage _ => none
  | config _ =>
    some "check the [layout], [style] and [simulation] sections of the configuration file"
  | position _ => none
  | exporting _ => some "check that the output location is writable"

end Failure

end NeighborGraph
