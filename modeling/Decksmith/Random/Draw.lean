import Decksmith.Random.Source

/-! Random decisions: choices from ranges, chances, shuffles and weighted choices. -/

namespace Decksmith.Random.Source

/-- A uniform number from `low` up to, but without, `high`; an empty range has none. -/
def fromRange? (source : Source) (low high : Nat) : Option (Nat × Source) :=
  if low < high then
    let drawn := source.below (high - low)
    some (low + drawn.1, drawn.2)
  else none

/-- A uniform number from `low` to `high`. Without a choice it is `low`, and nothing is drawn. -/
def between (source : Source) (low high : Nat) : Nat × Source :=
  if high ≤ low then (low, source)
  else
    let drawn := source.below (high - low + 1)
    (low + drawn.1, drawn.2)

/-- A position in a list of a given length; an empty list has none, and nothing is drawn. -/
def position? (source : Source) (length : Nat) : Option Nat × Source :=
  if length = 0 then (none, source)
  else
    let drawn := source.below length
    (some drawn.1, drawn.2)

/-- A number limited to the unit interval. -/
def toProbability (x : Float) : Float :=
  if x < 0.0 then 0.0 else if x > 1.0 then 1.0 else x

/-- Whether an event of a given probability happens. A NaN and a certainty are decided without a
draw, an impossibility is not. -/
def chance (source : Source) (probability : Float) : Bool × Source :=
  -- The limits leave a NaN as it is.
  let p := toProbability probability
  if p.isNaN then (false, source)
  else if p == 1.0 then (true, source)
  else
    let drawn := source.doubleWord
    (drawn.1 < (p * 18446744073709551616.0).toUInt64, drawn.2)

/-- Swaps every item from a position down to the second with one at or before it. -/
def shuffleBelow (items : Array α) : Nat → Source → Array α × Source
  | 0, source => (items, source)
  | last + 1, source =>
    -- The item may stay where it is, so its own position counts as well.
    let drawn := source.belowShort (last + 2)
    shuffleBelow (items.swapIfInBounds (last + 1) drawn.1) last drawn.2

/-- The items in random order. -/
def shuffle (source : Source) (items : List α) : List α × Source :=
  let shuffled := shuffleBelow items.toArray (items.length - 1) source
  (shuffled.1.toList, shuffled.2)

/-- A uniform number from zero up to, but without, one. -/
def unit (source : Source) : Float × Source :=
  let drawn := source.doubleWord
  ((drawn.1 >>> 11).toFloat * (1.0 / 9007199254740992.0), drawn.2)

/-- The sum of the positive weights, from left to right. -/
def positiveTotal (weights : List Float) : Float :=
  (weights.filter (· > 0.0)).foldl (· + ·) 0.0

/-- Walks along the weights until they exceed a remainder. Weights that are not positive are passed
over. Rounding can leave a sliver behind the last weight, which then belongs to that weight. -/
def walkWeights (remaining : Float) (last : Option Nat) (index : Nat) : List Float → Option Nat
  | [] => last
  | weight :: others =>
    -- Such a weight has not been counted in the total either.
    if weight ≤ 0.0 then walkWeights remaining last (index + 1) others
    else if remaining < weight then some index
    else walkWeights (remaining - weight) (some index) (index + 1) others

/-- The index of a weight, chosen with a probability in proportion to it. Without a positive and
finite total there is none, and nothing is drawn. -/
def weighted? (source : Source) (weights : List Float) : Option Nat × Source :=
  let total := positiveTotal weights
  if total > 0.0 && total.isFinite then
    let drawn := source.unit
    (walkWeights (drawn.1 * total) none 0 weights, drawn.2)
  else (none, source)

end Decksmith.Random.Source
