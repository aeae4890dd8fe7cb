import Decksmith.Card.Printed
import Decksmith.Json.Decode

/-! Cards from card data in JSON. -/

namespace Decksmith

open Json (Value optional?)

/-- Reads the identity of a card. -/
def CardId.ofJson? (value : Value) : Option CardId :=
  value.word?.map CardId.mk

/-- Reads a color, by its letter. -/
def Color.ofJson? : Value → Option Color :=
  Value.named? Color.ofLetter?

/-- Reads the legality in every format. Unknown formats do not count. -/
def legalities? (value : Value) : Option (Format → Legality) := do
  let fields ← value.fields? (Format.all.map Format.spelling)
  let listed ← Format.all.mapM fun format =>
    (optional? fields format.spelling (Value.named? Legality.ofSpelling?) .notLegal).map
      fun legality => (format, legality)
  return fun format => (listed.lookup format).getD .notLegal

/-- The names of the fields of a card, in their order. -/
def Card.fieldNames : List String :=
  ["card_id", "name", "type_line", "mana_cost", "cmc", "colors", "color_identity",
   "color_indicator", "oracle_text", "flavor_text", "power", "toughness", "loyalty",
   "hand_modifier", "life_modifier", "rarity", "set", "set_name", "collector_number", "artist",
   "watermark", "lang", "layout", "border_color", "frame", "printed_name", "printed_text",
   "printed_type_line", "scryfall_id", "oracle_id", "illustration_id", "arena_id", "mtgo_id",
   "mtgo_foil_id", "edhrec_rank", "story_spotlight_number", "legalities", "reserved", "reprint",
   "digital", "foil", "nonfoil", "full_art", "oversized", "colorshifted", "futureshifted",
   "timeshifted"]

/-- Reads a card. Every field may be missing, and unknown fields do not count. -/
def Card.ofJson? (value : Value) : Option Card := do
  let fields ← value.fields? fieldNames
  let text := fun name => optional? fields name Value.text? ""
  let maybeText := fun name => optional? fields name (Value.orNull? Value.text?) none
  let maybeNumber := fun name => optional? fields name (Value.orNull? Value.word?) none
  let colors := fun name => optional? fields name (Value.list? Color.ofJson?) []
  let flag := fun name => optional? fields name Value.boolean? false
  return {
    id := ← optional? fields "card_id" CardId.ofJson? ⟨0⟩
    name := ← text "name"
    typeLine := ← text "type_line"
    manaCost := ← maybeText "mana_cost"
    cmc := ← optional? fields "cmc" Value.number? 0.0
    colors := ← colors "colors"
    colorIdentity := ← colors "color_identity"
    colorIndicator := ← colors "color_indicator"
    oracleText := ← maybeText "oracle_text"
    flavorText := ← maybeText "flavor_text"
    power := ← maybeText "power"
    toughness := ← maybeText "toughness"
    loyalty := ← maybeText "loyalty"
    handModifier := ← maybeText "hand_modifier"
    lifeModifier := ← maybeText "life_modifier"
    rarity := ← optional? fields "rarity" (Value.named? Rarity.ofSpelling?) .common
    setCode := ← text "set"
    setName := ← text "set_name"
    collectorNumber := ← text "collector_number"
    artist := ← maybeText "artist"
    watermark := ← maybeText "watermark"
    lang := ← text "lang"
    layout := ← text "layout"
    borderColor := ← text "border_color"
    frame := ← text "frame"
    printedName := ← maybeText "printed_name"
    printedText := ← maybeText "printed_text"
    printedTypeLine := ← maybeText "printed_type_line"
    scryfallId := ← maybeText "scryfall_id"
    oracleId := ← maybeText "oracle_id"
    illustrationId := ← maybeText "illustration_id"
    arenaId := ← maybeNumber "arena_id"
    mtgoId := ← maybeNumber "mtgo_id"
    mtgoFoilId := ← maybeNumber "mtgo_foil_id"
    edhrecRank := ← maybeNumber "edhrec_rank"
    storySpotlightNumber := ← maybeNumber "story_spotlight_number"
    legality := ← optional? fields "legalities" legalities? fun _ => .notLegal
    reserved := ← flag "reserved"
    reprint := ← flag "reprint"
    digital := ← flag "digital"
    foil := ← flag "foil"
    nonfoil := ← flag "nonfoil"
    fullArt := ← flag "full_art"
    oversized := ← flag "oversized"
    colorshifted := ← flag "colorshifted"
    futureshifted := ← flag "futureshifted"
    timeshifted := ← flag "timeshifted" }

end Decksmith
