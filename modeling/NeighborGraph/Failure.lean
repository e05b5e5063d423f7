import NeighborGraph.Document.Load
import NeighborGraph.Session.Basic

/-!
Everything that can go wrong between a command and its output.
-/

namespace NeighborGraph

/-- Why a configuration cannot be used. -/
inductive ConfigFault where
  /-- A value is out of its range; the text says which one. -/
  | unusable (reason : String)
  /-- The file named on the command line does not exist. -/
  | missingFile (path : String)
  /-- A file holds no configuration. -/
  | unreadable
  /-- A file holds a configuration with a value out of its range. -/
  | invalidFile (reason : String)
  deriving DecidableEq

/-- The reason in words. -/
def ConfigFault.message : ConfigFault → String
  | unusable reason => reason
  | missingFile path => "Missing configuration file: " ++ path
  | unreadable => "Failed to parse TOML configuration"
  | invalidFile reason => "Validation error: " ++ reason

/-- Why a visualization failed. -/
inductive Failure where
  | load (fault : LoadFault)
  | graph (fault : GraphFault Float)
  | storage (fault : FileFault)
  | config (fault : ConfigFault)
  | position (fault : PositionFault)
  | exporting (fault : ExportFault)

namespace Failure

/-- The reason in words. Loading and graph faults speak for themselves. -/
def message : Failure → String
  | load fault => fault.message
  | graph fault => fault.message
  | storage fault => "I/O error: " ++ fault.message
  | config fault => "Configuration error: " ++ fault.message
  | position fault => "Layout error: " ++ fault.message
  | exporting fault => "Export error: " ++ fault.message

/-- A fault on the way from a text to a graph. -/
def ofGraphLoad : GraphLoadFault → Failure
  | .load fault => .load fault
  | .graph fault => .graph fault

/-- A fault at the start of a session. -/
def ofStart : StartFault Float → Failure
  | .config fault => .config (.unusable fault.message)
  | .graph fault => .graph fault

end Failure

end NeighborGraph
