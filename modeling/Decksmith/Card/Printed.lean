import Decksmith.Card.Mana
import Decksmith.Card.Record
import Decksmith.Card.TypeLine

/-! Printed cards and the records that they are. -/

namespace Decksmith

/-- A printed card. Whatever is not said takes the default here. -/
structure Card where
  id : CardId := ⟨0⟩
  name : String := ""
  typeLine : String := ""
  manaCost : Option String := none
  cmc : Float := 0.0
  colors : List Color := []
  colorIdentity : List Color := []
  colorIndicator : List Color := []
  oracleText : Option String := none
  flavorText : Option String := none
  power : Option String := none
  toughness : Option String := none
  loyalty : Option String := none
  handModifier : Option String := none
  lifeModifier : Option String := none
  rarity : Rarity := .common
  setCode : String := ""
  setName : String := ""
  collectorNumber : String := ""
  artist : Option String := none
  watermark : Option String := none
  lang : String := ""
  layout : String := ""
  borderColor : String := ""
  frame : String := ""
  printedName : Option String := none
  printedText : Option String := none
  printedTypeLine : Option String := none
  scryfallId : Option String := none
  oracleId : Option String := none
  illustrationId : Option String := none
  arenaId : Option UInt32 := none
  mtgoId : Option UInt32 := none
  mtgoFoilId : Option UInt32 := none
  edhrecRank : Option UInt32 := none
  storySpotlightNumber : Option UInt32 := none
  legality : Format → Legality := fun _ => .notLegal
  reserved : Bool := false
  reprint : Bool := false
  digital : Bool := false
  foil : Bool := false
  nonfoil : Bool := false
  fullArt : Bool := false
  oversized : Bool := false
  colorshifted : Bool := false
  futureshifted : Bool := false
  timeshifted : Bool := false

namespace Card

/-- A card of which only the name and the type line are known, in its usual printing. -/
def usual (id : CardId) (name typeLine : String) : Card :=
  { id := id, name := name, typeLine := typeLine, lang := "en", layout := "normal",
    borderColor := "black", frame := "2015", nonfoil := true }

/-- The card with a mana cost and the number that it converts to. -/
def withManaCost (card : Card) (cost : String) (cmc : Float) : Card :=
  { card with manaCost := some cost, cmc := cmc }

/-- The card with other colors. An empty color identity becomes the same colors. -/
def withColors (card : Card) (colors : List Color) : Card :=
  { card with
    colors := colors
    colorIdentity := if card.colorIdentity.isEmpty then colors else card.colorIdentity }

/-- The card with another rarity. -/
def withRarity (card : Card) (rarity : Rarity) : Card :=
  { card with rarity := rarity }

/-- The card with power and toughness. -/
def withPowerToughness (card : Card) (power toughness : String) : Card :=
  { card with power := some power, toughness := some toughness }

/-- The card with a rules text. -/
def withOracleText (card : Card) (text : String) : Card :=
  { card with oracleText := some text }

/-- The card with a rank. -/
def withEdhrecRank (card : Card) (rank : UInt32) : Card :=
  { card with edhrecRank := some rank }

/-- The card as part of another set. -/
def withSet (card : Card) (code name : String) : Card :=
  { card with setCode := code, setName := name }

/-- The card with another legality in one format. -/
def withLegality (card : Card) (format : Format) (legality : Legality) : Card :=
  -- Every other format keeps its legality.
  { card with legality := fun other => if other = format then legality else card.legality other }

/-- The words of the type line in front of the dash. -/
def types (card : Card) : List String :=
  TypeLine.types card.typeLine

/-- The words of the type line behind the dash. -/
def subtypes (card : Card) : List String :=
  TypeLine.subtypes card.typeLine

/-- How often a color's symbol stands in the mana cost, if the card has a cost. -/
def symbolCount? (card : Card) (color : Color) : Option Nat :=
  card.manaCost.map (Mana.symbolCount · color)

/-- The generic mana symbol of the cost. -/
def genericMana? (card : Card) : Option String :=
  card.manaCost.bind Mana.generic?

/-- The mana symbols of some colors. -/
def symbols (colors : List Color) : FieldValue :=
  .list (colors.map Color.symbol)

/-- An identification number that may be missing. -/
def idNumber (number : Option UInt32) : FieldValue :=
  .ofNumber? (number.map fun n => Float.ofNat n.toNat)

/-- What a query sees under a key. -/
def field (card : Card) : FieldKey → FieldValue
  | .arenaId => idNumber card.arenaId
  | .artist => .ofText? card.artist
  | .borderColor => .text card.borderColor
  | .cmc => .number card.cmc
  | .collectorNumber => .text card.collectorNumber
  | .colorIdentity => symbols card.colorIdentity
  | .colorIndicator => symbols card.colorIndicator
  | .colors => symbols card.colors
  | .colorshifted => .flag card.colorshifted
  | .digital => .flag card.digital
  | .edhrecRank => idNumber card.edhrecRank
  | .flavorText => .ofText? card.flavorText
  | .foil => .flag card.foil
  | .frame => .text card.frame
  | .fullArt => .flag card.fullArt
  | .futureshifted => .flag card.futureshifted
  | .handModifier => .ofText? card.handModifier
  | .id => .ofText? card.scryfallId
  | .illustrationId => .ofText? card.illustrationId
  | .lang => .text card.lang
  | .layout => .text card.layout
  | .legal format => .text (card.legality format).word
  | .lifeModifier => .ofText? card.lifeModifier
  | .loyalty => .ofText? card.loyalty
  | .manaCost => .ofText? card.manaCost
  | .mtgoFoilId => idNumber card.mtgoFoilId
  | .mtgoId => idNumber card.mtgoId
  | .name => .text card.name
  | .nonfoil => .flag card.nonfoil
  | .oracleId => .ofText? card.oracleId
  | .oracleText => .ofText? card.oracleText
  | .oversized => .flag card.oversized
  | .power => .ofText? card.power
  | .printedName => .ofText? card.printedName
  | .printedText => .ofText? card.printedText
  | .printedTypeLine => .ofText? card.printedTypeLine
  | .rarity => .text card.rarity.spelling
  | .reprint => .flag card.reprint
  | .reserved => .flag card.reserved
  | .set => .text card.setCode
  | .setName => .text card.setName
  | .storySpotlightNumber => idNumber card.storySpotlightNumber
  | .subTypes => .list card.subtypes
  | .timeshifted => .flag card.timeshifted
  | .toughness => .ofText? card.toughness
  | .typeLine => .text card.typeLine
  | .types => .list card.types
  | .watermark => .ofText? card.watermark

/-- What a ranking sees under a key. -/
def sortField (card : Card) : SortKey → FieldValue
  | .cmc => .number card.cmc
  | .colorsLength => .number (Float.ofNat card.colors.length)
  | .edhrecRank => idNumber card.edhrecRank
  | .loyalty => .ofText? card.loyalty
  | .manaCost color => .ofNumber? ((card.symbolCount? color).map Float.ofNat)
  | .manaCostColorless => .ofText? card.genericMana?
  | .power => .ofText? card.power
  | .rarity => .number (Float.ofNat card.rarity.rank)
  | .toughness => .ofText? card.toughness

/-- The card as a record. -/
def toRecord (card : Card) : Record :=
  ⟨card.id, card.field, card.sortField⟩

end Card

end Decksmith
