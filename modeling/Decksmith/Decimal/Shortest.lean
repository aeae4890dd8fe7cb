import Decksmith.Decimal.Binary

/-! The shortest decimal that reads back as a given magnitude. -/

namespace Decksmith.Decimal

/-- A decimal `digits * 10 ^ place`. -/
structure Digits where
  digits : Nat
  place : Int
deriving Repr, DecidableEq

/-- A power with an integer exponent, taken as one if the exponent is negative. -/
def powerPart (base : Nat) (exponent : Int) : Nat :=
  base.pow exponent.toNat

/-- Numerator of `quarters` quarter units in the last place, in steps of `10 ^ place`. -/
def Magnitude.gridNumerator (m : Magnitude) (place : Int) (quarters : Nat) : Nat :=
  quarters * powerPart 2 (m.exponent - 2) * powerPart 10 (-place)

/-- Denominator that goes with `gridNumerator`. -/
def Magnitude.gridDenominator (m : Magnitude) (place : Int) : Nat :=
  powerPart 2 (2 - m.exponent) * powerPart 10 place

/-- Whether a multiple of `10 ^ place` rounds to the magnitude. Both ends of the interval count when
the mantissa is even. -/
def Magnitude.roundsFrom (m : Magnitude) (place : Int) (digits : Nat) : Bool :=
  let low := m.gridNumerator place (4 * m.mantissa - if m.atBoundary then 1 else 2)
  let high := m.gridNumerator place (4 * m.mantissa + 2)
  let point := digits * m.gridDenominator place
  if m.mantissa % 2 = 0 then low ≤ point && point ≤ high else low < point && point < high

/-- The multiple of `10 ^ place` that rounds to the magnitude and lies nearest to it. Of two equally
near ones the larger is taken. -/
def Magnitude.nearestOnGrid (m : Magnitude) (place : Int) : Option Digits :=
  -- The two multiples next to the magnitude are the only ones that can be nearest.
  let value := m.gridNumerator place (4 * m.mantissa)
  let unit := m.gridDenominator place
  let below := value / unit
  let fromBelow := value - below * unit
  let fromAbove := (below + 1) * unit - value
  if m.roundsFrom place below && (fromBelow < fromAbove || !m.roundsFrom place (below + 1)) then
    some ⟨below, place⟩
  else if m.roundsFrom place (below + 1) then some ⟨below + 1, place⟩
  else none

/-- The first hit among ever finer grids. -/
def Magnitude.searchGrids (m : Magnitude) : Nat → Int → Digits
  | 0, place => ⟨m.gridNumerator place (4 * m.mantissa) / m.gridDenominator place, place⟩
  | finer + 1, place =>
    match m.nearestOnGrid place with
    | some hit => hit
    | none => m.searchGrids finer (place - 1)

/-- A place whose unit exceeds the magnitude: 30103 / 100000 approximates the logarithm of two. -/
def Magnitude.topPlace (m : Magnitude) : Int :=
  (m.exponent + m.mantissa.log2 + 1) * 30103 / 100000 + 1

/-- The decimal with the fewest digits that rounds to the magnitude. Seventeen digits always
suffice, so twenty places below the top one are enough. -/
def Magnitude.shortest (m : Magnitude) : Digits :=
  m.searchGrids 20 m.topPlace

end Decksmith.Decimal
