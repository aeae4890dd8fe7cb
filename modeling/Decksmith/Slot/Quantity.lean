import Decksmith.Decimal.Positional
import Decksmith.Random.Draw

/-! How many records a slot picks. -/

namespace Decksmith

/-- Why a slot could not pick records. -/
inductive SelectionError where
  | nonPositiveWeightTotal (total : Float)
  | missingDeckSize
  | invalidQuantity (min max : Float)
deriving Repr

/-- The text that reports why a slot could not pick records. -/
def SelectionError.message : SelectionError → String
  | nonPositiveWeightTotal total =>
    "random-by-point-weight selection needs a positive score total, got " ++ Decimal.write total
  | missingDeckSize => "percentage quantity requires an expected deck size"
  | invalidQuantity min max =>
    "invalid quantity range " ++ Decimal.write min ++ "..=" ++ Decimal.write max

/-- A number of records, drawn from a range or from percentages of the deck size. -/
inductive Quantity where
  | fixed (min max : Nat)
  | percent (min max : Float)
deriving Repr

namespace Quantity

/-- Exactly so many records. -/
def exactly (count : Nat) : Quantity :=
  fixed count count

/-- The whole part of a percentage of a size. Negative amounts and NaN count as nothing, and what
exceeds 64 bits as the largest number of 64 bits. -/
def wholePercent (percentage : Float) (size : Nat) : Nat :=
  (percentage * Float.ofNat size / 100.0).toUInt64.toNat

/-- Whether two percentages are the bounds of a range. -/
def isRange (min max : Float) : Bool :=
  -- Both comparisons are false of a NaN, which the first two conditions have turned away.
  min.isFinite && max.isFinite && !(min < 0.0) && !(min > max)

/-- Draws a number of records. A failure draws nothing. -/
def resolve (quantity : Quantity) (deckSize : Option Nat) (source : Random.Source) :
    Except SelectionError Nat × Random.Source :=
  match quantity with
  | fixed min max =>
    if max < min then (.error (.invalidQuantity (Float.ofNat min) (Float.ofNat max)), source)
    else
      let drawn := source.between min max
      (.ok drawn.1, drawn.2)
  | percent min max =>
    if !isRange min max then (.error (.invalidQuantity min max), source)
    else
      match deckSize with
      | none => (.error .missingDeckSize, source)
      | some size =>
        let low := wholePercent min size
        let drawn := source.between 0 (wholePercent max size - low)
        (.ok (low + drawn.1), drawn.2)

end Quantity

end Decksmith
