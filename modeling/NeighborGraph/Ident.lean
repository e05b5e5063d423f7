/-!
Names of graph nodes.
-/

namespace NeighborGraph

/-- The name by which links, pointer grabs and drawings refer to a node. -/
structure NodeId where
  /-- The text of the name. -/
  text : String
  deriving DecidableEq

namespace NodeId

/-- The name given to the node at a position when nothing else names it. -/
def ofIndex (index : Nat) : NodeId := ⟨"#" ++ String.ofList (Nat.toDigits 10 index)⟩

/-- The name has exactly this text. -/
def isNamed (id : NodeId) (text : String) : Bool := id.text == text

end NodeId

end NeighborGraph
