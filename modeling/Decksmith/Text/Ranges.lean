/-! Sets of code points given as sorted, disjoint ranges. -/

namespace Decksmith.Text

/-- Inclusive ranges of code points, in ascending order and without overlap. -/
abbrev Ranges := Array (Nat × Nat)

/-- Whether one of the ranges between two positions holds a code point, by halving the positions. -/
def Ranges.containsBetween (ranges : Ranges) (code low high : Nat) : Bool :=
  if low < high then
    -- The ranges ascend, so the middle one rules out one half.
    let middle := (low + high) / 2
    match ranges[middle]? with
    | none => false
    | some (first, last) =>
      if code < first then ranges.containsBetween code low middle
      else if last < code then ranges.containsBetween code (middle + 1) high
      else true
  else false
termination_by high - low

/-- Whether a code point lies in one of the ranges. -/
def Ranges.contains (ranges : Ranges) (code : Nat) : Bool :=
  ranges.containsBetween code 0 ranges.size

end Decksmith.Text
