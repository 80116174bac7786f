import LatticeGas.Randomness.Block

/-
  This file defines generators of random values, and the one
  that draws them from the endless stream of random words
  that belongs to a seed.

  Key definitions include:
    * `Randomness.Draw`
    * `Randomness.Generator`
    * `Randomness.keyOfSeed`
    * `Randomness.WordStream`
    * `Randomness.WordStream.next`
    * `Randomness.WordStream.unit`
    * `Randomness.WordStream.below`
    * `Randomness.Generator.standard`

  Key theorems include:
    * `Randomness.WordStream.below_lt`
-/

------------------------------------------------------------
-- Generators
------------------------------------------------------------

namespace LatticeGas

namespace Randomness

/- A value that depends on the state of a generator. -/
abbrev Draw (S : Type) :=
  StateM S

/- How many different words there are. -/
def wordCount : Nat :=
  4294967296

/-
  A generator has a first state for each seed. It draws
  numbers in `[0, 1)`, and natural numbers below a bound.
-/
structure Generator where
  State : Type
  ofSeed : UInt64 → State
  unit : Draw State Float
  below : Nat → Draw State Nat
  below_lt :
    ∀ (bound : Nat) (state : State),
      0 < bound → bound ≤ wordCount →
        ((below bound).run state).1 < bound

end Randomness

end LatticeGas

------------------------------------------------------------
-- Seeds
------------------------------------------------------------

namespace LatticeGas

namespace Randomness

/- One step of the linear generator that expands a seed. -/
def expand (state : UInt64) : UInt64 :=
  state * 6364136223846793005 + 11634580027462260723

/- The word that is read off a state of that generator. -/
def permute (state : UInt64) : UInt32 :=
  rotateRight
    (((state >>> 18) ^^^ state) >>> 27).toUInt32
    (state >>> 59).toUInt32

/- The key of a seed, one word per step. -/
def keyOfSeed (seed : UInt64) : Key :=
  Vector.ofFn fun i =>
    permute (Nat.repeat expand (i.val + 1) seed)

end Randomness

end LatticeGas

------------------------------------------------------------
-- Word Streams
------------------------------------------------------------

namespace LatticeGas

namespace Randomness

/-
  A place in the words of all blocks of a key: the block at
  hand, how many of its words are used, and the number of the
  block that follows.
-/
structure WordStream where
  key : Key
  counter : UInt64
  block : Block
  used : Nat

namespace WordStream

/- The stream of a seed, from its first word. -/
def ofSeed (seed : UInt64) : WordStream :=
  let key := keyOfSeed seed
  { key := key
    counter := 1
    block := keyBlock key 0
    used := 0 }

/- The next word, and the stream behind it. -/
def next (stream : WordStream) : UInt32 × WordStream :=
  if hUsed : stream.used < 16 then
    (stream.block[stream.used],
      { stream with used := stream.used + 1 })
  else
    let block := keyBlock stream.key stream.counter
    (block[0],
      { stream with
        counter := stream.counter + 1
        block := block
        used := 1 })

end WordStream

end Randomness

end LatticeGas

------------------------------------------------------------
-- Draws from a Word Stream
------------------------------------------------------------

namespace LatticeGas

namespace Randomness

namespace WordStream

/- Draw one word. -/
def word : Draw WordStream UInt32 :=
  WordStream.next

/- Draw a number in `[0, 1)` with 53 random bits. -/
def unit : Draw WordStream Float := do
  let low ← word
  let high ← word
  let bits := high.toUInt64 <<< 32 ||| low.toUInt64
  return (bits >>> 11).toFloat * Float.scaleB 1.0 (-53)

/-
  Draw a number below `bound`: the high half of the product
  of `bound` and a word. When the low half is so large that
  words further on could carry into the high half, a second
  word decides whether they do.
-/
def below (bound : Nat) : Draw WordStream Nat := do
  let first ← word
  let product := first.toNat * bound
  let high := product / wordCount
  let low := product % wordCount
  if low ≤ wordCount - bound then
    return high
  else
    let second ← word
    let further := second.toNat * bound / wordCount
    return high + (low + further) / wordCount

end WordStream

end Randomness

end LatticeGas

------------------------------------------------------------
-- The Standard Generator
------------------------------------------------------------

namespace LatticeGas

namespace Randomness

namespace WordStream

theorem product_le
    (word : UInt32)
    (bound : Nat) :
    word.toNat * bound ≤ (wordCount - 1) * bound := by
  have hWord := word.toNat_lt
  exact Nat.mul_le_mul_right bound (by unfold wordCount; omega)

/- The high half of a product is below the bound. -/
theorem high_lt
    {bound product : Nat}
    (hPos : 0 < bound)
    (hProduct : product ≤ (wordCount - 1) * bound) :
    product / wordCount < bound := by
  unfold wordCount at *
  omega

/-
  A carry is looked for only if the low half is large, and
  then the high half is not the greatest number itself.
-/
theorem high_succ_lt
    {bound product : Nat}
    (hBound : bound ≤ wordCount)
    (hProduct : product ≤ (wordCount - 1) * bound)
    (hLow : ¬ product % wordCount ≤ wordCount - bound) :
    product / wordCount + 1 < bound := by
  unfold wordCount at *
  omega

/- The carry is at most one. -/
theorem carry_le
    {bound further : Nat}
    (hBound : bound ≤ wordCount)
    (hFurther : further < bound)
    (product : Nat) :
    (product % wordCount + further) / wordCount ≤ 1 := by
  unfold wordCount at *
  omega

/- A number is drawn below its bound. -/
theorem below_lt
    {bound : Nat}
    (hPos : 0 < bound)
    (hBound : bound ≤ wordCount)
    (stream : WordStream) :
    ((below bound).run stream).1 < bound := by
  have hFirst := product_le (word.run stream).1 bound
  change
    ((if (word.run stream).1.toNat * bound % wordCount ≤
        wordCount - bound then
      _
    else _ : Draw WordStream Nat).run
      (word.run stream).2).1 < bound
  split
  · exact high_lt hPos hFirst
  · next hLow =>
      have hSecond :=
        product_le (word.run (word.run stream).2).1 bound
      have hHigh := high_succ_lt hBound hFirst hLow
      have hCarry := carry_le hBound (high_lt hPos hSecond)
        ((word.run stream).1.toNat * bound)
      exact Nat.lt_of_le_of_lt
        (Nat.add_le_add_left hCarry _) hHigh

end WordStream

/- The generator that draws from the stream of its seed. -/
def Generator.standard : Generator :=
  { State := WordStream
    ofSeed := WordStream.ofSeed
    unit := WordStream.unit
    below := WordStream.below
    below_lt := fun _ stream hPos hBound =>
      WordStream.below_lt hPos hBound stream }

end Randomness

end LatticeGas
