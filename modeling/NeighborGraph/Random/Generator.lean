import NeighborGraph.Random.Keystream
import NeighborGraph.Scalar

/-!
Reproducible random numbers.

A seed of 64 bits is expanded to the key of a stream; a generator is a key with the number of draws
made so far. The draw at a position depends on nothing but the key and the position.
-/

namespace NeighborGraph

namespace StreamKey

/-- The state that follows in the expansion of a seed. -/
def advance (state : UInt64) : UInt64 := state * 6364136223846793005 + 11634580027462260723

/-- The word that a state of the expansion gives: a folded part of its bits, rotated by its topmost
five bits. -/
def fold (state : UInt64) : UInt32 :=
  let word : UInt32 := ((state >>> 18 ^^^ state) >>> 27).toUInt32
  let amount : UInt32 := (state >>> 59).toUInt32
  StreamBlock.rotate word (32 - amount)

/-- The key that a seed is expanded to. -/
def ofSeed (seed : UInt64) : StreamKey :=
  Vector.ofFn fun i => fold (Nat.repeat advance (i + 1) seed)

end StreamKey

/-- A source of random numbers. -/
structure Generator where
  /-- The key of the stream that is drawn from. -/
  key : StreamKey
  /-- The number of draws made so far. -/
  drawn : Nat
  deriving DecidableEq

namespace Generator

/-- The generator of a seed, at its first draw. -/
def ofSeed (seed : UInt64) : Generator := ⟨.ofSeed seed, 0⟩

variable {α : Type} [Scalar α]

/-- The number that the draw at a position gives: at least zero and below one, in steps of
two to the power -53. -/
def unitAt (g : Generator) (position : Nat) : α :=
  ((g.key.wide position >>> 11).toNat : α) / ((0x20000000000000 : Nat) : α)

/-- The next number, and the generator after its draw. -/
def unit (g : Generator) : α × Generator := (g.unitAt g.drawn, { g with drawn := g.drawn + 1 })

end Generator

end NeighborGraph
