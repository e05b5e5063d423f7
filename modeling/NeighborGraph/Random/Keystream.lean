/-!
A keystream of words drawn from a key.

The stream is that of the ChaCha cipher with twelve rounds: block number `n` is a mix of four fixed
words, the key and `n`, and the words of the blocks follow each other. Each word is a function of
the key and its own position, so a stream needs no state.
-/

namespace NeighborGraph

/-- The eight words that a stream is drawn from. -/
abbrev StreamKey := Vector UInt32 8

/-- The sixteen words that are mixed into one block. -/
abbrev StreamBlock := Vector UInt32 16

namespace StreamBlock

/-- The word with its bits moved up by an amount; those that leave it come back at the low end. -/
def rotate (word amount : UInt32) : UInt32 := word <<< amount ||| word >>> (32 - amount)

/-- Half of a quarter round: `a` takes in `b`, and `d` takes in `a` and is rotated. -/
def stir (s : StreamBlock) (a b d : Fin 16) (amount : UInt32) : StreamBlock :=
  let sum := s[a] + s[b]
  let mixed := rotate (s[d] ^^^ sum) amount
  (s.set a sum).set d mixed

/-- A quarter round on four of the words. -/
def quarterRound (s : StreamBlock) (a b c d : Fin 16) : StreamBlock :=
  (((s.stir a b d 16).stir c d b 12).stir a b d 8).stir c d b 7

/-- A round on the columns of the square of words and one on its diagonals. -/
def doubleRound (s : StreamBlock) : StreamBlock :=
  let s := s.quarterRound 0 4 8 12 |>.quarterRound 1 5 9 13 |>.quarterRound 2 6 10 14
    |>.quarterRound 3 7 11 15
  s.quarterRound 0 5 10 15 |>.quarterRound 1 6 11 12 |>.quarterRound 2 7 8 13
    |>.quarterRound 3 4 9 14

/-- The words that are mixed: four fixed ones, the key, the number of the block, and zeros. -/
def start (key : StreamKey) (number : Nat) : StreamBlock :=
  let fixed : Vector UInt32 4 := #v[0x61707865, 0x3320646E, 0x79622D32, 0x6B206574]
  let counter : Vector UInt32 4 :=
    #v[UInt32.ofNat number, UInt32.ofNat (number / 0x100000000), 0, 0]
  fixed ++ key ++ counter

/-- One block of the stream: six double rounds, added to what they began with. -/
def block (key : StreamKey) (number : Nat) : StreamBlock :=
  let s := start key number
  s.zipWith (· + ·) (Nat.repeat doubleRound 6 s)

end StreamBlock

namespace StreamKey

/-- The word of the stream at a position. -/
def word (key : StreamKey) (position : Nat) : UInt32 :=
  (StreamBlock.block key (position / 16)).get ⟨position % 16, Nat.mod_lt _ (by decide)⟩

/-- A pair of neighboring words as one number, the first word in its low half. -/
def wide (key : StreamKey) (position : Nat) : UInt64 :=
  (key.word (2 * position)).toUInt64 ||| (key.word (2 * position + 1)).toUInt64 <<< 32

end StreamKey

end NeighborGraph
