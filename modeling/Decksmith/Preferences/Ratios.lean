/-! Ratios: how the cards of a deck are shared out among four categories. -/

namespace Decksmith

/-- The relative share of each category of cards. -/
structure Ratios where
  lands : Float
  creatures : Float
  /-- Artifacts, enchantments and planeswalkers that are no creatures. -/
  otherPermanents : Float
  /-- Instants and sorceries. -/
  nonpermanents : Float
deriving Repr

namespace Ratios

/-- The usual shares. -/
def average : Ratios := ⟨20.0, 20.0, 12.0, 8.0⟩

/-- Fewer lands than usual. -/
def lowLands : Ratios := ⟨15.0, 23.0, 12.0, 10.0⟩

/-- More lands than usual. -/
def highLands : Ratios := ⟨25.0, 19.0, 10.0, 6.0⟩

/-- More instants and sorceries than usual. -/
def highNonpermanents : Ratios := ⟨20.0, 14.0, 10.0, 16.0⟩

/-- Fewer instants and sorceries than usual. -/
def lowNonpermanents : Ratios := ⟨20.0, 25.0, 13.0, 2.0⟩

/-- The sum of all shares. -/
def total (ratios : Ratios) : Float :=
  ratios.lands + ratios.creatures + ratios.otherPermanents + ratios.nonpermanents

/-- How many cards of a deck a share amounts to. Without a positive total no share amounts to any
card; neither does a negative share or a NaN. -/
def count (ratios : Ratios) (share : Float) (deckSize : Nat) : Nat :=
  if ratios.total ≤ 0.0 then 0
  else (share * Float.ofNat deckSize / ratios.total).toUInt64.toNat

end Ratios

end Decksmith
