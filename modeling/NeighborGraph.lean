import NeighborGraph.Config.Json
import NeighborGraph.Main
import NeighborGraph.Proofs.Graph.Building
import NeighborGraph.Proofs.Graph.Nodewise
import NeighborGraph.Proofs.Layout.Changes
import NeighborGraph.Proofs.Session.Run
import NeighborGraph.Proofs.Session.Observed
import NeighborGraph.Proofs.Session.Operation
import NeighborGraph.Proofs.Scene.Pointer
import NeighborGraph.Proofs.Session.Counting
import NeighborGraph.Proofs.Document.Requests
import NeighborGraph.Proofs.Session.Holding
import NeighborGraph.Proofs.Session.Shape
import NeighborGraph.Proofs.Text.ByteOrder
import NeighborGraph.Proofs.FirstOccurrence
import NeighborGraph.Proofs.Observation.Tally
import NeighborGraph.Proofs.Json.Strings
import NeighborGraph.Proofs.Json.Numbers
import NeighborGraph.Proofs.Json.Written
import NeighborGraph.Proofs.Document.RoundTrip
import NeighborGraph.Proofs.Storage.FileTree
import NeighborGraph.Proofs.Session.Relaxation
import NeighborGraph.Proofs.Storage.FilePath
import NeighborGraph.Proofs.Command.Render
import NeighborGraph.Proofs.Command.Failed
import NeighborGraph.Proofs.Scalar.Magnitudes
import NeighborGraph.Proofs.Json.Record
import NeighborGraph.Proofs.Observation.Log
import NeighborGraph.Proofs.Scalar.Canonical
import NeighborGraph.Proofs.Scalar.Rounding
import NeighborGraph.Proofs.Scalar.Arithmetic
import NeighborGraph.Proofs.Scalar.Length
import NeighborGraph.Proofs.Scalar.Overflow
import NeighborGraph.Proofs.Geometry.ClampLength
import NeighborGraph.Proofs.Layout.Bounded
import NeighborGraph.Proofs.Session.Undisturbed
import NeighborGraph.Proofs.Session.Finite
import NeighborGraph.Proofs.Scalar.Extremes
import NeighborGraph.Proofs.Session.Settled
import NeighborGraph.Proofs.Frame.Refusal
import NeighborGraph.Proofs.Layout.Blind
import NeighborGraph.Proofs.Session.Resumed
import NeighborGraph.Proofs.Session.Recorded
import NeighborGraph.Proofs.Draw.Layering
import NeighborGraph.Proofs.Frame.Mirrored
import NeighborGraph.Proofs.Layout.AllPairs
import NeighborGraph.Proofs.Layout.Settling
import NeighborGraph.Proofs.Markup.Written
import NeighborGraph.Proofs.Color.Text
import NeighborGraph.Proofs.Draw.Reading
import NeighborGraph.Proofs.Draw.Identifiers
import NeighborGraph.Proofs.Draw.Captions
import NeighborGraph.Proofs.Layout.Reach
import NeighborGraph.Proofs.Session.Speed
import NeighborGraph.Proofs.Document.Offences
import NeighborGraph.Proofs.Frame.Topmost
import NeighborGraph.Proofs.Session.Known
import NeighborGraph.Proofs.Surface.FrameFiles
import NeighborGraph.Proofs.Storage.Agreement
import NeighborGraph.Proofs.Command.Precedence
import NeighborGraph.Proofs.Frame.Enclosure
import NeighborGraph.Proofs.Layout.Placement
import NeighborGraph.Proofs.Color.Equality
import NeighborGraph.Proofs.Geometry.Clamped
