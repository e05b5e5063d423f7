import NeighborGraph.Document.Basic
import NeighborGraph.Json.Printer
import NeighborGraph.Json.Record

/-!
Graph documents as JSON.

Both lists may be left out, a node need not have an identifier of its own, and a link without a
value has the value one. Everything else in a document is read over.
-/

namespace NeighborGraph

open Json

/-- How a node is read. -/
def DocumentNode.form : RecordForm DocumentNode where
  title := "struct DocumentNode"
  start := ⟨"", none⟩
  fields := [
    .mandatory "name" readText fun name node => { node with name },
    .optional "id" (readOption readText) fun id node => { node with id }]

/-- How a link is read. -/
def DocumentLink.form : RecordForm DocumentLink where
  title := "struct DocumentLink"
  start := ⟨0, 0, 1⟩
  fields := [
    .mandatory "source" (readNatural "usize") fun source link => { link with source },
    .mandatory "target" (readNatural "usize") fun target link => { link with target },
    .optional "value" readFloat fun value link => { link with value }]

namespace Document

/-- How a document is read. -/
def form : RecordForm Document where
  title := "struct GraphDocument"
  start := ⟨[], []⟩
  fields := [
    .optional "nodes" (readList (readRecord DocumentNode.form)) fun nodes d => { d with nodes },
    .optional "links" (readList (readRecord DocumentLink.form)) fun links d => { d with links }]

/-- The document that a text holds. -/
def ofJson (text : List Char) : Except Fault Document := readWhole (readRecord form) text

/-- A document as a value to be written. An identifier is written only if there is one. -/
def toValue (d : Document) : Value :=
  .map [
    ("nodes", .list (d.nodes.map fun node =>
      .map (("name", .text node.name) :: (node.id.map fun id => ("id", Value.text id)).toList))),
    ("links", .list (d.links.map fun link =>
      .map [("source", .natural link.source), ("target", .natural link.target),
        ("value", .floating link.value)]))]

/-- The indented text of a document. -/
def toJson (d : Document) : String := d.toValue.pretty

end Document

end NeighborGraph
