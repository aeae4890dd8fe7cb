import Decksmith.Random.Keystream

/-! Sources of randomness: a seeded stream of words and the uniform numbers drawn from it. -/

namespace Decksmith.Random

/-- A stream of pseudorandom words, with the words of the current block that are still to come. -/
structure Source where
  seed : UInt64
  key : Key
  /-- The number of the block that follows the current one. -/
  nextBlock : UInt64
  pending : List UInt32
deriving DecidableEq, Repr

namespace Source

/-- The stream of a seed, from its start. -/
def ofSeed (seed : UInt64) : Source :=
  ⟨seed, keyOfSeed seed, 0, []⟩

/-- The next word of the stream. -/
def word (source : Source) : UInt32 × Source :=
  match source.pending with
  | next :: rest => (next, { source with pending := rest })
  | [] =>
    let block := keystreamBlock source.key source.nextBlock
    (block[0],
      { source with nextBlock := source.nextBlock + 1, pending := block.toList.drop 1 })

/-- The next two words of the stream as one number, the low half first. -/
def doubleWord (source : Source) : UInt64 × Source :=
  let low := source.word
  let high := low.2.word
  ((high.1.toUInt64 <<< 32) ||| low.1.toUInt64, high.2)

/-- The next word as a natural number. -/
def draw32 (source : Source) : Nat × Source :=
  let drawn := source.word
  (drawn.1.toNat, drawn.2)

/-- The next double word as a natural number. -/
def draw64 (source : Source) : Nat × Source :=
  let drawn := source.doubleWord
  (drawn.1.toNat, drawn.2)

/-- How many draws a uniform choice may reject, so that it ends on every stream. Sampling by rejection has no such bound
and never takes a draw that favours some numbers; here the draw behind this many rejected ones is taken as it is. Every
draw is accepted with probability at least one half, so this has a probability below `2 ^ (-1000)`. -/
def rejectionLimit : Nat := 1000

/-- The largest remainder for which a draw of `bits` bits is accepted: the count, scaled up until its
highest bit is the highest of `bits`, less one. -/
def acceptanceZone (bits count : Nat) : Nat :=
  count <<< (bits - 1 - count.log2) - 1

/-- Scales draws of `bits` bits to numbers below `count` until one is accepted. -/
def scaleBelow (draw : Source → Nat × Source) (bits count : Nat) : Nat → Source → Nat × Source
  | 0, source =>
    let drawn := draw source
    ((drawn.1 * count) >>> bits, drawn.2)
  | retries + 1, source =>
    let drawn := draw source
    let scaled := drawn.1 * count
    -- Remainders beyond the zone would make some numbers more likely than others.
    if scaled % (1 <<< bits) ≤ acceptanceZone bits count then (scaled >>> bits, drawn.2)
    else scaleBelow draw bits count retries drawn.2

/-- A uniform number below a positive count, from double words. -/
def below (source : Source) (count : Nat) : Nat × Source :=
  scaleBelow draw64 64 count rejectionLimit source

/-- A uniform number below a positive count, from single words. -/
def belowShort (source : Source) (count : Nat) : Nat × Source :=
  scaleBelow draw32 32 count rejectionLimit source

end Source

end Decksmith.Random
