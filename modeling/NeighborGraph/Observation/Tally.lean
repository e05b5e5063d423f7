import NeighborGraph.Document.Basic

/-!
Counting observed packets.

An observation names the hardware addresses of a sender and a receiver and how many packets went
between them. A `Tally` numbers the addresses in the order of their first appearance, the receiver
before the sender, and adds up the packets of both directions of each pair.
-/

namespace NeighborGraph

/-- Packets that were seen between two addresses. -/
structure Observation where
  /-- The address that sent them. -/
  source : String
  /-- The address that received them. -/
  destination : String
  /-- How many there were; a count may be fractional. -/
  packets : Float

/-- A pair of numbered addresses. -/
abbrev AddressPair := Nat × Nat

/-- What has been observed so far. -/
structure Tally where
  /-- The addresses, in order of first appearance. -/
  addresses : List String
  /-- The total of each pair, in order of the pairs' first appearance. -/
  totals : List (AddressPair × Float)

namespace Tally

/-- The tally before any observation. -/
def empty : Tally := ⟨[], []⟩

/-- The number of an address, which is given the next one if it is new. -/
def number (t : Tally) (address : String) : Nat := t.addresses.idxOf address

/-- The tally with an address numbered. -/
def enter (t : Tally) (address : String) : Tally :=
  if t.addresses.contains address then t else { t with addresses := t.addresses ++ [address] }

/-- Packets added to the total of a pair, which starts at zero. -/
def addTotal (pair : AddressPair) (packets : Float) :
    List (AddressPair × Float) → List (AddressPair × Float)
  | [] => [(pair, 0 + packets)]
  | (other, total) :: rest =>
    if other = pair then (other, total + packets) :: rest
    else (other, total) :: addTotal pair packets rest

/-- The pair of an observation's addresses, the one with the smaller text first. -/
def pair (t : Tally) (o : Observation) : AddressPair :=
  if o.destination ≤ o.source then (t.number o.destination, t.number o.source)
  else (t.number o.source, t.number o.destination)

/-- The tally with one more observation. -/
def observe (t : Tally) (o : Observation) : Tally :=
  let entered := (t.enter o.destination).enter o.source
  { entered with totals := addTotal (entered.pair o) o.packets entered.totals }

/-- The tally of a list of observations. -/
def ofList (observations : List Observation) : Tally := observations.foldl observe empty

/-- The number of addresses seen. -/
def addressCount (t : Tally) : Nat := t.addresses.length

/-- The document with the addresses as nodes and the totals as links. -/
def toDocument (t : Tally) : Document where
  nodes := t.addresses.map .named
  links := t.totals.map fun ((source, target), total) => ⟨source, target, total⟩

end Tally

end NeighborGraph
