import Decksmith.Card.Attribute

/-! Keys of the fields that queries test and of the attributes that rankings order by. -/

namespace Decksmith

/-- A field that a query can test. -/
inductive FieldKey where
  | arenaId
  | artist
  | borderColor
  | cmc
  | collectorNumber
  | colorIdentity
  | colorIndicator
  | colors
  | colorshifted
  | digital
  | edhrecRank
  | flavorText
  | foil
  | frame
  | fullArt
  | futureshifted
  | handModifier
  | id
  | illustrationId
  | lang
  | layout
  | legal (format : Format)
  | lifeModifier
  | loyalty
  | manaCost
  | mtgoFoilId
  | mtgoId
  | name
  | nonfoil
  | oracleId
  | oracleText
  | oversized
  | power
  | printedName
  | printedText
  | printedTypeLine
  | rarity
  | reprint
  | reserved
  | set
  | setName
  | storySpotlightNumber
  | subTypes
  | timeshifted
  | toughness
  | typeLine
  | types
  | watermark
deriving DecidableEq, Repr

namespace FieldKey

/-- Every field key; legality comes once for each format. -/
def all : List FieldKey :=
  [arenaId, artist, borderColor, cmc, collectorNumber, colorIdentity, colorIndicator, colors,
   colorshifted, digital, edhrecRank, flavorText, foil, frame, fullArt, futureshifted,
   handModifier, id, illustrationId, lang, layout] ++
  Format.all.map legal ++
  [lifeModifier, loyalty, manaCost, mtgoFoilId, mtgoId, name, nonfoil, oracleId, oracleText,
   oversized, power, printedName, printedText, printedTypeLine, rarity, reprint, reserved, set,
   setName, storySpotlightNumber, subTypes, timeshifted, toughness, typeLine, types, watermark]

/-- The spelling of a key. Legality is spelled alone, whatever the format. -/
def spelling : FieldKey → String
  | arenaId => "arena_id"
  | artist => "artist"
  | borderColor => "border_color"
  | cmc => "cmc"
  | collectorNumber => "collector_number"
  | colorIdentity => "color_identity"
  | colorIndicator => "color_indicator"
  | colors => "colors"
  | colorshifted => "colorshifted"
  | digital => "digital"
  | edhrecRank => "edhrec_rank"
  | flavorText => "flavor_text"
  | foil => "foil"
  | frame => "frame"
  | fullArt => "full_art"
  | futureshifted => "futureshifted"
  | handModifier => "hand_modifier"
  | id => "id"
  | illustrationId => "illustration_id"
  | lang => "lang"
  | layout => "layout"
  | legal _ => "legal"
  | lifeModifier => "life_modifier"
  | loyalty => "loyalty"
  | manaCost => "mana_cost"
  | mtgoFoilId => "mtgo_foil_id"
  | mtgoId => "mtgo_id"
  | name => "name"
  | nonfoil => "nonfoil"
  | oracleId => "oracle_id"
  | oracleText => "oracle_text"
  | oversized => "oversized"
  | power => "power"
  | printedName => "printed_name"
  | printedText => "printed_text"
  | printedTypeLine => "printed_type_line"
  | rarity => "rarity"
  | reprint => "reprint"
  | reserved => "reserved"
  | set => "set"
  | setName => "set_name"
  | storySpotlightNumber => "story_spotlight_number"
  | subTypes => "sub_types"
  | timeshifted => "timeshifted"
  | toughness => "toughness"
  | typeLine => "type_line"
  | types => "types"
  | watermark => "watermark"

end FieldKey

/-- Whether a predicate tests a value itself or the length of a list. -/
inductive Modifier where
  | none
  | count
deriving DecidableEq, Repr

/-- A numeric attribute that a ranking orders by. -/
inductive SortKey where
  | cmc
  | colorsLength
  | edhrecRank
  | loyalty
  | manaCost (color : Color)
  | manaCostColorless
  | power
  | rarity
  | toughness
deriving DecidableEq, Repr

namespace SortKey

/-- Every sort key. -/
def all : List SortKey :=
  [cmc, colorsLength, edhrecRank, loyalty] ++ Color.all.map manaCost ++
  [manaCostColorless, power, rarity, toughness]

/-- The spelling of a sort key. -/
def spelling : SortKey → String
  | cmc => "cmc"
  | colorsLength => "colors_length"
  | edhrecRank => "edhrec_rank"
  | loyalty => "loyalty"
  | manaCost .white => "mana_cost_white"
  | manaCost .blue => "mana_cost_blue"
  | manaCost .black => "mana_cost_black"
  | manaCost .red => "mana_cost_red"
  | manaCost .green => "mana_cost_green"
  | manaCostColorless => "mana_cost_colorless"
  | power => "power"
  | rarity => "rarity"
  | toughness => "toughness"

/-- The sort key with a given spelling. -/
def ofSpelling? (spelling : String) : Option SortKey :=
  all.find? (·.spelling == spelling)

/-- The color whose mana symbols a key counts. -/
def symbolColor? : SortKey → Option Color
  | manaCost color => some color
  | _ => none

end SortKey

end Decksmith
