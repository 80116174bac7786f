/-
  This file defines the blocks of the ChaCha stream cipher
  with twelve rounds, used as a source of random words.

  Key definitions include:
    * `Randomness.Block`
    * `Randomness.quarterRound`
    * `Randomness.doubleRound`
    * `Randomness.Key`
    * `Randomness.keyBlock`
-/

------------------------------------------------------------
-- Rounds
------------------------------------------------------------

namespace LatticeGas

namespace Randomness

/- Sixteen words, seen as a square with four rows. -/
abbrev Block :=
  Vector UInt32 16

/- Turn the bits of a word to the left. -/
def rotateLeft
    (word amount : UInt32) : UInt32 :=
  (word <<< amount) ||| (word >>> (32 - amount))

/- Turn the bits of a word to the right. -/
def rotateRight
    (word amount : UInt32) : UInt32 :=
  (word >>> amount) ||| (word <<< (32 - amount))

/-
  One word is added to another, and the sum is mixed into a
  third word, which then turns.
-/
def mix
    (block : Block)
    (sum addend target : Fin 16)
    (amount : UInt32) : Block :=
  let value := block[sum] + block[addend]
  let turned := rotateLeft (block[target] ^^^ value) amount
  (block.set sum value).set target turned

/- Mix four words of a block. -/
def quarterRound
    (block : Block)
    (a b c d : Fin 16) : Block :=
  let block := mix block a b d 16
  let block := mix block c d b 12
  let block := mix block a b d 8
  mix block c d b 7

/- Mix the four columns, and then the four diagonals. -/
def doubleRound (block : Block) : Block :=
  let block := quarterRound block 0 4 8 12
  let block := quarterRound block 1 5 9 13
  let block := quarterRound block 2 6 10 14
  let block := quarterRound block 3 7 11 15
  let block := quarterRound block 0 5 10 15
  let block := quarterRound block 1 6 11 12
  let block := quarterRound block 2 7 8 13
  quarterRound block 3 4 9 14

end Randomness

end LatticeGas

------------------------------------------------------------
-- Keyed Blocks
------------------------------------------------------------

namespace LatticeGas

namespace Randomness

/- The secret words of the cipher. -/
abbrev Key :=
  Vector UInt32 8

/- The block that is mixed for a key and a block number. -/
def initialBlock
    (key : Key)
    (counter : UInt64) : Block :=
  #v[0x61707865, 0x3320646e, 0x79622d32, 0x6b206574,
    key[0], key[1], key[2], key[3],
    key[4], key[5], key[6], key[7],
    counter.toUInt32, (counter >>> 32).toUInt32, 0, 0]

/-
  Twelve rounds over the initial block, and the initial block
  added to the outcome.
-/
def keyBlock
    (key : Key)
    (counter : UInt64) : Block :=
  let start := initialBlock key counter
  let mixed := Nat.repeat doubleRound 6 start
  Vector.zipWith (· + ·) mixed start

end Randomness

end LatticeGas
