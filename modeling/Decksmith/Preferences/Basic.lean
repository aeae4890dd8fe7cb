import Decksmith.Card.Attribute
import Decksmith.Preferences.Ratios
import Decksmith.Random.Draw

/-! Preferences: the colors, the ratios and the size of a deck, given or drawn. -/

namespace Decksmith

/-- What a deck should look like. Without colors it is colorless. -/
structure Preferences where
  colors : List Color := []
  ratios : Ratios := .average
  deckSize : Nat := 60
deriving Repr

namespace Preferences

/-- The listed colors in their customary order, each of them once. -/
def distinctColors (colors : List Color) : List Color :=
  Color.all.filter colors.contains

/-- The preferences with other colors. -/
def withColors (preferences : Preferences) (colors : List Color) : Preferences :=
  { preferences with colors := distinctColors colors }

/-- The ratios for a number below six; two of the numbers stand for the usual ratios. -/
def ratiosFor : Nat → Ratios
  | 0 | 1 => .average
  | 2 => .highLands
  | 3 => .lowLands
  | 4 => .highNonpermanents
  | _ => .lowNonpermanents

/-- A random decision on whether to go on: a number below `sides` is drawn and asked about. -/
structure Gate where
  sides : Nat
  opens : Nat → Bool

/-- The decisions in front of each further color. -/
def gates : List Gate :=
  [⟨8, (0 < ·)⟩, ⟨3, (· = 0)⟩, ⟨4, (· = 0)⟩, ⟨3, (· ≠ 0)⟩, ⟨4, (· ≠ 0)⟩]

/-- Draws a color from those that remain for every gate that opens, up to the first that does not. -/
def drawColors (remaining : List Color) : List Gate → Random.Source → List Color × Random.Source
  | [], source => ([], source)
  | gate :: others, source =>
    -- The gate draws before the color does.
    let toss := source.below gate.sides
    if gate.opens toss.1 then
      match toss.2.position? remaining.length with
      | (none, source) => drawColors remaining others source
      | (some position, source) =>
        let rest := drawColors (remaining.eraseIdx position) others source
        (remaining[position]?.toList ++ rest.1, rest.2)
    else ([], toss.2)

/-- Random ratios and colors for a deck of the usual size. -/
def draw (source : Random.Source) : Preferences × Random.Source :=
  let ratios := source.below 6
  let colors := drawColors Color.all gates ratios.2
  ({ colors := colors.1, ratios := ratiosFor ratios.1 }, colors.2)

end Preferences

end Decksmith
